import RecordFilter.Binary64.Printer
import RecordFilter.Proofs.Binary64.Shortest
import RecordFilter.Proofs.Decimal.Numeral

/-! Floating point numbers as JSON numbers. The text denotes the shortest decimal number that rounds
to the given one, and what stands before its exponent is a decimal number.
-/

namespace RecordFilter

open RecordFilter.Text
open RecordFilter.Json (Numeral)

namespace Text

/-- Each power of ten puts a zero behind the digits, by induction on the power. -/
theorem toDigits_mul_pow {n : Nat} (positive : 0 < n) (power : Nat)
    : Nat.toDigits 10 (n * 10 ^ power) = Nat.toDigits 10 n ++ List.replicate power '0' := by
  induction power with
  | zero => simp
  | succ power ih =>
      have step
          := @Nat.toDigits_append_toDigits 10 (n * 10 ^ power) 0 (by decide) (by positivity)
            (by decide)
      rw [Nat.pow_succ, ← Nat.mul_assoc, Nat.mul_comm _ 10, ← Nat.add_zero (10 * _), ← step, ih,
        List.append_assoc, ← List.replicate_append_replicate]
      rfl

end Text

namespace Binary64

section Layout

variable {d : Decimal} {number zeros : Nat}

/-- Digits with places are laid out like a decimal number. -/
theorem positionalDigits_of_places (layout : Layout) (places : 0 < d.scale)
    : positionalDigits layout (Nat.toDigits 10 d.mantissa) (-(d.scale : Int))
      = d.wholeChars ++ Decimal.fraction d.placeChars := by
  have point : Decimal.fraction d.placeChars = '.' :: d.placeChars := by
    have filled : d.placeChars ≠ [] := by
      rw [← List.length_pos_iff, d.length_placeChars]
      exact places
    simp [Decimal.fraction, filled]
  rw [positionalDigits, if_neg (by omega), point]
  simp only [Int.neg_neg, Int.toNat_natCast]
  split
  next long =>
    have same : padded (d.scale + 1) d.mantissa = Nat.toDigits 10 d.mantissa := by
      rw [padded, Nat.sub_eq_zero_of_le long, List.replicate_zero, List.nil_append]
    rw [Decimal.wholeChars, Decimal.placeChars, same]
  next short =>
    have same
        : padded (d.scale + 1) d.mantissa
          = '0' :: (List.replicate (d.scale - (Nat.toDigits 10 d.mantissa).length) '0'
            ++ Nat.toDigits 10 d.mantissa) := by
      rw [padded, Nat.sub_add_comm (by omega), List.replicate_succ]
      rfl
    have length : (padded (d.scale + 1) d.mantissa).length - d.scale = 1 := by
      rw [length_padded]
      omega
    rw [Decimal.wholeChars, Decimal.placeChars, length, same]
    rfl

/-- A whole number is laid out like a decimal number with one place, which is a zero. -/
theorem positionalDigits_of_whole (h : 0 < number ∨ zeros = 0)
    (mantissa : d.mantissa = number * 10 ^ (zeros + 1)) (scale : d.scale = 1)
    : positionalDigits jsonLayout (Nat.toDigits 10 number) zeros
      = d.wholeChars ++ Decimal.fraction d.placeChars := by
  have same
      : padded 2 d.mantissa = (Nat.toDigits 10 number ++ List.replicate zeros '0') ++ ['0'] := by
    rcases Nat.eq_zero_or_pos number with rfl | positive
    · obtain rfl : zeros = 0 := by omega
      rw [mantissa]
      rfl
    · have filled : 0 < (Nat.toDigits 10 number).length := Nat.length_toDigits_pos
      rw [padded, mantissa, toDigits_mul_pow positive, List.length_append, List.length_replicate,
        Nat.sub_eq_zero_of_le (by omega), List.replicate_zero, List.nil_append, List.append_assoc,
        ← List.replicate_succ']
  have whole : d.wholeChars = Nat.toDigits 10 number ++ List.replicate zeros '0' := by
    rw [Decimal.wholeChars, scale, same, List.length_append, List.length_singleton,
      Nat.add_sub_cancel, List.take_left]
  have place : d.placeChars = ['0'] := by
    rw [Decimal.placeChars, scale, same, List.length_append, List.length_singleton,
      Nat.add_sub_cancel, List.drop_left]
  rw [positionalDigits, if_pos (by omega), whole, place]
  rfl

section Scientific

variable {first : Char} {rest : List Char} (negative : Bool)
  (digits : ∀ c ∈ first :: rest, isDigit c = true) (exponent : Int)

/-- One digit before the point, the others behind it, and an exponent. -/
def scientific : Numeral where
  negative := negative
  whole := [first]
  places := rest
  exponent? := some (exponent < 0, Nat.toDigits 10 exponent.natAbs)
  whole_ne_nil := by simp
  zero_alone := fun zero => by rw [Option.some.inj zero]
  isDigit_of_mem_whole := by simpa using digits first (List.mem_cons_self ..)
  isDigit_of_mem_places := fun c member => digits c (List.mem_cons_of_mem _ member)
  exponent_ne_nil := by simp
  isDigit_of_mem_exponent := by
    intro part same c member
    cases same
    exact isDigit_of_mem_toDigits member

theorem exponent_scientific : (scientific negative digits exponent).exponent = exponent := by
  simp only [Numeral.exponent, scientific, decide_eq_true_eq, digitsValue_toDigits]
  omega

theorem chars_scientific
    : (scientific negative digits exponent).chars
      = minus negative ++ scientificDigits jsonLayout (first :: rest) exponent := by
  have mark
      : Numeral.exponentChars (scientific negative digits exponent).exponent?
        = (if exponent < 0 then ['e', '-'] else ['e', '+'])
          ++ Nat.toDigits 10 exponent.natAbs := by
    by_cases below : exponent < 0 <;>
      simp [scientific, Numeral.exponentChars, Numeral.exponentSign, below]
  rw [Numeral.chars, mark]
  unfold scientificDigits
  cases rest <;> simp [scientific, Decimal.fraction, jsonLayout]

end Scientific

/-- One digit before the point and a written exponent are a numeral of the same value. -/
theorem exists_numeral_scientific (negative : Bool) (number : Nat) (place : Int)
    : ∃ n : Numeral,
        n.chars
        = minus negative
          ++ scientificDigits jsonLayout (Nat.toDigits 10 number)
              (place + (Nat.toDigits 10 number).length - 1)
        ∧ n.negative = negative
        ∧ n.size = number * 10 ^ place
        ∧ n.base.size = number / 10 ^ ((Nat.toDigits 10 number).length - 1) := by
  have digits : ∀ c ∈ Nat.toDigits 10 number, isDigit c = true := fun c => isDigit_of_mem_toDigits
  have value := digitsValue_toDigits number
  obtain ⟨first, rest, same⟩ : ∃ c cs, Nat.toDigits 10 number = c :: cs :=
    List.exists_cons_of_ne_nil Nat.toDigits_ne_nil
  rw [same] at digits value ⊢
  obtain ⟨exponent, hexponent⟩ : ∃ e : Int, e = place + (first :: rest).length - 1 := ⟨_, rfl⟩
  rw [← hexponent]
  have mantissa : (scientific negative digits exponent).mantissa = number := value
  refine ⟨scientific negative digits exponent, chars_scientific negative digits exponent, rfl,
    ?_, ?_⟩
  · rw [Numeral.size, exponent_scientific, mantissa, hexponent]
    congr 2
    simp [scientific]
    ring
  · rw [Numeral.size_base, mantissa]
    rfl

end Layout

/-- The size that the shortest digits write. -/
def Finite.writtenSize (x : Finite) : ℚ :=
  (x.shortest .even).1 * 10 ^ (x.shortest .even).2

/-- The number that the text of a number denotes. -/
def Finite.written (x : Finite) : ℚ :=
  signedBy x.negative x.writtenSize

theorem Finite.writtenSize_nonneg (x : Finite) : 0 ≤ x.writtenSize := by
  unfold writtenSize
  positivity

theorem Finite.abs_written (x : Finite) : |x.written| = x.writtenSize :=
  abs_signedBy _ x.writtenSize_nonneg

section Written

variable {x : Finite}

/-- What rounds to a number is no larger than a significand of all 53 bits allows. -/
theorem Finite.Accepts.le {size : ℚ} (h : x.Accepts size)
    : size ≤ 4 * 2 ^ 53 * 2 ^ (x.exponent - 2) := by
  have short := x.canonical.1
  rw [Nat.one_shiftLeft] at short
  have upper : (x.interval.upper : ℚ) ≤ 4 * 2 ^ 53 := by
    rw [interval]
    exact_mod_cast (by omega : 4 * x.significand + 2 ≤ 4 * 2 ^ 53)
  rw [← div_le_iff₀ (by positivity)]
  unfold Accepts RoundingInterval.Covers at h
  split at h
  next => exact h.2.trans upper
  next => exact h.2.le.trans upper

/-- The shortest digits of a number other than zero. -/
theorem Finite.shortest_bounds (positive : 0 < x.significand) (tie : Tie)
    : 0 < (x.shortest tie).1 ∧ (x.shortest tie).1 < 10 ^ 18 := by
  obtain ⟨n, place, result, accepted, fine, _⟩ := x.exists_shortest positive tie
  rw [result]
  dsimp only
  have size := accepted.pos positive
  refine ⟨Nat.pos_of_ne_zero fun zero => by simp [zero] at size, ?_⟩
  have small : (n : ℚ) * 10 ^ place < 4 * 2 ^ 53 * 10 * 10 ^ place := by
    calc (n : ℚ) * 10 ^ place ≤ 4 * 2 ^ 53 * 2 ^ (x.exponent - 2) := accepted.le
      _ < 4 * 2 ^ 53 * 10 ^ (place + 1) := by gcongr
      _ = 4 * 2 ^ 53 * 10 * 10 ^ place := by
        rw [zpow_add_one₀ (by norm_num)]
        ring
  have := lt_of_mul_lt_mul_right small (by positivity)
  have : n < 4 * 2 ^ 53 * 10 := by exact_mod_cast this
  omega

theorem Finite.shortest_of_zero (zero : x.significand = 0) (tie : Tie)
    : x.shortest tie = (0, 0) := by
  simp [shortest, isZero, zero]

/-- What is laid out without an exponent is the text of a decimal number. -/
theorem exists_decimal_of_positional (negative : Bool) {number : Nat} {place : Int}
    (h : 0 < number ∨ place = 0) (short : (Nat.toDigits 10 number).length ≤ 18)
    (low : -5 ≤ place + (Nat.toDigits 10 number).length - 1)
    (high : place + (Nat.toDigits 10 number).length - 1 ≤ 15)
    : ∃ d : Decimal,
        d.chars = minus negative ++ positionalDigits jsonLayout (Nat.toDigits 10 number) place
        ∧ d.negative = negative
        ∧ d.size = number * 10 ^ place := by
  have below : number < 10 ^ (Nat.toDigits 10 number).length :=
    (Nat.length_toDigits_le_iff (by decide) Nat.length_toDigits_pos).mp (Nat.le_refl _)
  rcases Int.lt_or_le place 0 with fractional | whole
  · obtain ⟨places, rfl⟩ := Int.exists_eq_neg_ofNat fractional.le
    have fits : number < 1 <<< 96 :=
      lt_trans ((Nat.length_toDigits_le_iff (by decide) (by decide)).mp short) (by decide)
    let d : Decimal := ⟨negative, number, places, fits, by omega⟩
    have scale : 0 < d.scale := by change 0 < places; omega
    refine ⟨d, ?_, rfl, ?_⟩
    · rw [d.chars_eq, ← positionalDigits_of_places jsonLayout scale]
    · rw [Decimal.size, zpow_neg, zpow_natCast, div_eq_mul_inv]
  · obtain ⟨zeros, rfl⟩ := Int.eq_ofNat_of_zero_le whole
    have fits : number * 10 ^ (zeros + 1) < 1 <<< 96 := by
      calc number * 10 ^ (zeros + 1)
          ≤ 10 ^ (Nat.toDigits 10 number).length * 10 ^ (zeros + 1) := by gcongr
        _ = 10 ^ ((Nat.toDigits 10 number).length + (zeros + 1)) := (Nat.pow_add ..).symm
        _ ≤ 10 ^ 17 := Nat.pow_le_pow_right (by decide) (by omega)
        _ < 1 <<< 96 := by decide
    let d : Decimal := ⟨negative, number * 10 ^ (zeros + 1), 1, fits, by decide⟩
    refine ⟨d, ?_, rfl, ?_⟩
    · rw [d.chars_eq, ← positionalDigits_of_whole (by omega) rfl rfl]
    · have mantissa : (d.mantissa : ℚ) = number * 10 ^ (zeros + 1) := by
        exact_mod_cast rfl
      have scale : d.scale = 1 := rfl
      rw [Decimal.size, mantissa, scale, zpow_natCast, pow_succ]
      ring

/-- The text of a number is its sign and its shortest digits, laid out in one of two ways. -/
theorem Finite.jsonText_eq {number : Nat} {place : Int}
    (result : x.shortest .even = (number, place))
    : x.jsonText
      = String.ofList (minus x.negative
        ++ if x.isZero || (-5 ≤ place + (Nat.toDigits 10 number).length - 1
            && place + (Nat.toDigits 10 number).length - 1 ≤ 15) then
          positionalDigits jsonLayout (Nat.toDigits 10 number) place
        else
          scientificDigits jsonLayout (Nat.toDigits 10 number)
            (place + (Nat.toDigits 10 number).length - 1)) := by
  rw [jsonText, Layout.finite]
  simp only [jsonLayout, result]
  rfl

/-- Both layouts put a mark among the digits: a point, or that of an exponent. -/
theorem Finite.mem_jsonText (x : Finite) : '.' ∈ x.jsonText.toList ∨ 'e' ∈ x.jsonText.toList := by
  have point (digits : List Char) (place : Int)
      : '.' ∈ positionalDigits jsonLayout digits place := by
    unfold positionalDigits
    split
    next => simp [jsonLayout]
    next =>
      dsimp only
      split <;> simp
  have mark (digits : List Char) (exponent : Int)
      : 'e' ∈ scientificDigits jsonLayout digits exponent := by
    have here : 'e' ∈ if exponent < 0 then ['e', '-'] else ['e', '+'] := by
      split <;> simp
    exact List.mem_append_left _ (List.mem_append_right _ here)
  rw [jsonText_eq rfl, String.toList_ofList]
  refine Or.imp (List.mem_append_right _) (List.mem_append_right _) ?_
  split
  next => exact .inl (point _ _)
  next => exact .inr (mark _ _)

/-- The text of a number is that of a numeral. -/
theorem Finite.exists_numeral (x : Finite)
    : ∃ n : Numeral,
        x.jsonText = n.text
        ∧ n.negative = x.negative
        ∧ n.size = x.writtenSize
        ∧ Decimal.Holds n.base.value := by
  obtain ⟨number, place, result⟩ : ∃ number place, x.shortest .even = (number, place) :=
    ⟨_, _, rfl⟩
  have written : x.writtenSize = number * 10 ^ place := by rw [writtenSize, result]
  have text := jsonText_eq result
  obtain ⟨small, kind⟩
      : number < 10 ^ 18
        ∧ (number = 0 ∧ place = 0 ∨ 0 < number ∧ x.isZero = false) := by
    rcases Nat.eq_zero_or_pos x.significand with zero | positive
    · rw [x.shortest_of_zero zero] at result
      cases result
      exact ⟨by decide, .inl ⟨rfl, rfl⟩⟩
    · have := x.shortest_bounds positive .even
      rw [result] at this
      exact ⟨this.2, .inr ⟨this.1, by simp [isZero]; omega⟩⟩
  have short := (Nat.length_toDigits_le_iff (b := 10) (by decide) (by decide)).mpr small
  rw [text, written]
  -- The digits stand around the point, or the point stands after the first one.
  split
  next positional =>
    have range
        : -5 ≤ place + (Nat.toDigits 10 number).length - 1
          ∧ place + (Nat.toDigits 10 number).length - 1 ≤ 15 := by
      rcases kind with ⟨rfl, rfl⟩ | ⟨_, nonzero⟩
      · decide
      · simpa [nonzero] using positional
    obtain ⟨d, chars, negative, size⟩ :=
      exists_decimal_of_positional x.negative (by omega) short range.1 range.2
    exact ⟨d.numeral, by rw [Numeral.text, d.chars_numeral, chars], negative,
      d.size_numeral.trans size, d, d.value_numeral.symm⟩
  next =>
    obtain ⟨n, chars, negative, size, base⟩ :=
      exists_numeral_scientific x.negative number place
    refine ⟨n, by rw [Numeral.text, chars], negative, size, ?_⟩
    have fits : number < 1 <<< 96 := lt_trans small (by decide)
    refine ⟨⟨n.negative, number, (Nat.toDigits 10 number).length - 1, fits, by omega⟩, ?_⟩
    change signedBy n.negative _ = signedBy n.negative _
    rw [base, Decimal.size]

end Written

end Binary64

end RecordFilter
