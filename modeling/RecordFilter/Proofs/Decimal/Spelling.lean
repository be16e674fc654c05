import RecordFilter.Proofs.Decimal.Exactness

/-! Different spellings of one number as the texts that decimal numbers are read from. Spellings in
moderation are all read alike, and only these are read as the number that they denote.
-/

namespace RecordFilter

open RecordFilter.Text
open RecordFilter.Json (Numeral)

/-- A decimal number can hold what stands in front of the exponent, and the exponent moves the point
by no more places than a decimal number has.
-/
structure Json.Numeral.IsModerate (n : Numeral) : Prop where
  base : Decimal.Holds n.base.value
  exponent : n.exponent.natAbs ≤ 28

namespace Decimal

section Shift

variable {d : Decimal} {exponent : Nat}

theorem ofParts?_isSome_iff {negative : Bool} {mantissa scale : Nat}
    : (ofParts? negative mantissa scale).isSome = true ↔ mantissa < 1 <<< 96 ∧ scale ≤ 28 := by
  unfold ofParts?
  split
  next room => exact iff_of_true rfl room
  next none => exact iff_of_false (by simp) none

/-- Rounding at a later place leaves a number below its bound. -/
theorem halfUp_pow_lt {mantissa bound dropped : Nat} (small : mantissa < bound)
    (positive : 0 < dropped)
    : Rounding.halfUp mantissa (Nat.pow 10 dropped) < bound := by
  have unit : 10 ≤ Nat.pow 10 dropped := Nat.le_self_pow (by omega) 10
  apply (Nat.div_lt_iff_lt_mul (by omega)).mpr
  nlinarith

/-- Every shift to the left by no more places than there are leads to a decimal number. -/
theorem lowerBy?_isSome (few : exponent ≤ 28) : (d.lowerBy? exponent).isSome = true := by
  unfold lowerBy?
  rw [if_neg (by omega)]
  split
  next within => exact ofParts?_isSome_iff.mpr ⟨d.mantissa_lt, within⟩
  next beyond =>
    exact ofParts?_isSome_iff.mpr ⟨halfUp_pow_lt d.mantissa_lt (by omega), Nat.le_refl 28⟩

/-- A shift to the right leads to a decimal number when its whole part has room in 96 bits. -/
theorem raiseBy?_isSome_iff (few : exponent ≤ 28)
    : (d.raiseBy? exponent).isSome = true ↔ d.size * 10 ^ exponent < 2 ^ 96 := by
  constructor
  · intro made
    obtain ⟨result, raised⟩ := Option.isSome_iff_exists.mp made
    calc d.size * 10 ^ exponent
        = |result.value| := by
          rw [value_of_raiseBy? raised, abs_mul, abs_value, abs_of_pos (by positivity)]
      _ < 2 ^ 96 := result.abs_value_lt
  · intro small
    have scale := d.scale_le
    unfold raiseBy?
    split
    next within => exact ofParts?_isSome_iff.mpr ⟨d.mantissa_lt, by omega⟩
    next beyond =>
      rw [if_neg (by omega)]
      split
      next => rfl
      next =>
        have power : (10 : ℚ) ^ exponent = 10 ^ (exponent - d.scale) * 10 ^ d.scale := by
          rw [← pow_add, Nat.sub_add_cancel (by omega)]
        have shifted : d.size * 10 ^ exponent = d.mantissa * 10 ^ (exponent - d.scale) := by
          rw [size, power]
          field_simp
        refine ofParts?_isSome_iff.mpr ⟨?_, Nat.zero_le 28⟩
        rw [shifted] at small
        rw [Nat.one_shiftLeft]
        exact_mod_cast small

end Shift

section Moderate

variable {n m : Numeral}

/-- A moderate spelling is read as a decimal number unless its whole part is beyond 96 bits. -/
theorem ofText?_isSome_iff (moderate : n.IsModerate)
    : (ofText? n.text).isSome = true ↔ |n.value| < 2 ^ 96 := by
  obtain ⟨b, read, base⟩ := plain?_base_of_holds moderate.base
  have small := moderate.exponent
  have value := n.value_eq_base_mul
  rw [← base] at value
  cases exponent : n.exponent? with
  | none =>
      rw [Numeral.exponent, exponent, zpow_zero, mul_one] at value
      rw [ofText?_text_of_no_exponent exponent, read, value]
      exact iff_of_true rfl b.abs_value_lt
  | some part =>
      obtain ⟨negative, digits⟩ := part
      rw [Numeral.exponent, exponent] at value small
      have few : digitsValue digits ≤ 28 := by cases negative <;> simpa using small
      have narrow : digitsValue digits < UInt32.size := lt_of_le_of_lt few (by decide)
      rw [ofText?_text_of_exponent exponent, read, Option.bind_some, if_pos narrow, value, abs_mul,
        abs_value]
      cases negative with
      | true =>
          have shifted : (1 : ℚ) ≤ 10 ^ digitsValue digits := one_le_pow₀ (by norm_num)
          refine iff_of_true (lowerBy?_isSome few) ?_
          simp only [if_true, zpow_neg, zpow_natCast]
          rw [abs_of_pos (by positivity), ← div_eq_mul_inv]
          refine lt_of_le_of_lt (div_le_self b.size_nonneg shifted) ?_
          rw [← abs_value]
          exact b.abs_value_lt
      | false =>
          simp only [Bool.false_eq_true, if_false, zpow_natCast]
          rw [abs_of_pos (by positivity)]
          exact raiseBy?_isSome_iff few

/-- A moderate spelling is read by the number that it denotes. -/
theorem map_grid_ofText? (moderate : n.IsModerate)
    : (ofText? n.text).map grid
      = if |n.value| < 2 ^ 96 then some (nearestGrid n.value) else none := by
  have read := ofText?_isSome_iff moderate
  cases decimal : ofText? n.text with
  | none =>
      rw [decimal] at read
      rw [if_neg fun small => absurd (read.mpr small) (by simp), Option.map_none]
  | some d =>
      rw [decimal] at read
      rw [if_pos (read.mp rfl), Option.map_some, grid_of_ofText? moderate.base decimal]

/-- No exponent of more than 28 places is read. -/
theorem exponent_le_of_ofText? {d : Decimal} (read : ofText? n.text = some d)
    : n.exponent.natAbs ≤ 28 := by
  cases exponent : n.exponent? with
  | none => simp [Numeral.exponent, exponent]
  | some part =>
      obtain ⟨negative, digits⟩ := part
      rw [ofText?_text_of_exponent exponent, Option.bind_eq_some_iff] at read
      obtain ⟨b, _, shifted⟩ := read
      have scale := b.scale_le
      by_contra many
      have many : 28 < digitsValue digits := by
        cases negative <;> simpa [Numeral.exponent, exponent] using many
      have lowered : b.lowerBy? (digitsValue digits) = none := if_pos many
      have raised : b.raiseBy? (digitsValue digits) = none := by
        rw [raiseBy?, if_neg (by omega), if_pos many]
      simp [lowered, raised] at shifted

/-- The number itself is read from its moderate spellings only. -/
theorem exists_ofText?_iff
    : (∃ d, ofText? n.text = some d ∧ d.value = n.value) ↔ Holds n.value ∧ n.IsModerate := by
  constructor
  · rintro ⟨d, read, same⟩
    exact ⟨⟨d, same⟩, holds_base_of_ofText? read same, exponent_le_of_ofText? read⟩
  · rintro ⟨holds, moderate⟩
    have small : |n.value| < 2 ^ 96 := by
      obtain ⟨d, same⟩ := holds
      exact same ▸ d.abs_value_lt
    obtain ⟨d, read⟩ := Option.isSome_iff_exists.mp ((ofText?_isSome_iff moderate).mpr small)
    exact ⟨d, read, (value_of_ofText?_iff read).mpr ⟨moderate.base, holds⟩⟩

end Moderate

end Decimal

end RecordFilter
