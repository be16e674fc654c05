import RecordFilter.Proofs.Decimal.Value
import RecordFilter.Proofs.Json.Numeral

/-! The texts of decimal numbers as JSON numbers, which denote their values. -/

namespace RecordFilter

open RecordFilter.Text
open RecordFilter.Json (Numeral)

namespace Decimal

variable (d : Decimal)

/-- Either the digits before the point have none in front of them, or there is one alone. -/
theorem wholeChars_eq_singleton_of_zero (zero : d.wholeChars.head? = some '0')
    : d.wholeChars = ['0'] := by
  have length : d.wholeChars.length = (padded (d.scale + 1) d.mantissa).length - d.scale := by
    have room := d.scale_lt_length_padded
    rw [wholeChars, List.length_take]
    omega
  have short : d.wholeChars.length = 1 := by
    by_contra long
    have positive := List.length_pos_iff.mpr d.wholeChars_ne_nil
    have many : d.scale + 1 < (Nat.toDigits 10 d.mantissa).length := by
      rw [length_padded] at length
      omega
    have same : padded (d.scale + 1) d.mantissa = Nat.toDigits 10 d.mantissa := by
      rw [padded, Nat.sub_eq_zero_of_le many.le, List.replicate_zero, List.nil_append]
    have mantissa : 0 < d.mantissa := by
      refine Nat.pos_of_ne_zero fun none => ?_
      rw [none] at many
      simp at many
    have first : (Nat.toDigits 10 d.mantissa).head? = some '0' := by
      rw [← same, ← wholeChars_append_placeChars, List.head?_append, zero, Option.some_or]
    exact head?_toDigits_ne_zero mantissa first
  obtain ⟨c, alone⟩ := List.length_eq_one_iff.mp short
  rw [alone] at zero ⊢
  rw [Option.some.inj zero]

/-- The text of a decimal number by its parts. -/
def numeral : Numeral where
  negative := d.negative
  whole := d.wholeChars
  places := d.placeChars
  exponent? := none
  whole_ne_nil := d.wholeChars_ne_nil
  zero_alone := d.wholeChars_eq_singleton_of_zero
  isDigit_of_mem_whole := d.isDigit_of_mem_wholeChars
  isDigit_of_mem_places := d.isDigit_of_mem_placeChars
  exponent_ne_nil := Numeral.ne_nil_of_no_exponent
  isDigit_of_mem_exponent := Numeral.isDigit_of_no_exponent

theorem chars_numeral : d.numeral.chars = d.chars := by
  rw [Numeral.chars, chars_eq]
  exact List.append_nil _

theorem text_numeral : d.numeral.text = d.text := by
  rw [Numeral.text, chars_numeral, text]

theorem mantissa_numeral : d.numeral.mantissa = d.mantissa := by
  rw [Numeral.mantissa, numeral, wholeChars_append_placeChars, digitsValue_padded]

theorem size_numeral : d.numeral.size = d.size := by
  have base : d.numeral = d.numeral.base := rfl
  have places : d.numeral.places.length = d.scale := d.length_placeChars
  rw [base, Numeral.size_base, places, mantissa_numeral, size]

theorem value_numeral : d.numeral.value = d.value := by
  rw [Numeral.value, size_numeral]
  rfl

end Decimal

end RecordFilter
