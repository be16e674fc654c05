import RecordFilter.Proofs.Binary64.JsonNumber

/-! Floating point numbers without a fraction. Their texts denote whole numbers too, and the same
ones as long as the last place of the significand is one or less.
-/

namespace RecordFilter.Binary64

/-- The number has no fraction. -/
def Finite.IsWhole (x : Finite) : Prop :=
  ∃ k : Nat, x.size = k

section Whole

variable {x : Finite}

theorem Finite.isWhole_of_nonneg (above : 0 ≤ x.exponent) : x.IsWhole := by
  obtain ⟨k, same⟩ := Int.eq_ofNat_of_zero_le above
  refine ⟨x.significand * 2 ^ k, ?_⟩
  rw [size, same, zpow_natCast]
  push_cast
  rfl

/-- The text of a whole number denotes a whole number. -/
theorem Finite.exists_writtenSize_of_isWhole (whole : x.IsWhole)
    : ∃ k : Nat, x.writtenSize = k := by
  rcases Nat.eq_zero_or_pos x.significand with zero | positive
  · exact ⟨0, by rw [writtenSize, x.shortest_of_zero zero]; simp⟩
  · obtain ⟨number, place, result, _, _, coarsest⟩ := x.exists_shortest positive .even
    obtain ⟨k, size⟩ := whole
    have found : ∃ n, x.onGrid? .even 0 = some n :=
      exists_onGrid?_of_multiple positive (by rw [size, zpow_zero, mul_one])
    obtain ⟨zeros, rfl⟩ := Int.eq_ofNat_of_zero_le (coarsest 0 (by decide) found)
    refine ⟨number * 10 ^ zeros, ?_⟩
    rw [writtenSize, result, zpow_natCast]
    push_cast
    rfl

/-- The text of a number denotes one that is no more than half a last place away. -/
theorem Finite.abs_writtenSize_sub_le (x : Finite)
    : |x.writtenSize - x.size| ≤ 2 ^ x.exponent / 2 := by
  rcases Nat.eq_zero_or_pos x.significand with zero | positive
  · rw [writtenSize, x.shortest_of_zero zero, size, zero]
    simp
    positivity
  · obtain ⟨number, place, result, accepted, _⟩ := x.exists_shortest positive .even
    have power : (0 : ℚ) < 2 ^ x.exponent := by positivity
    have near : |(number : ℚ) * 10 ^ place / 2 ^ x.exponent - x.significand| ≤ 1 / 2 := by
      rcases accepted.isNearestEven positive with near | ⟨near, _⟩ <;> linarith
    have split
        : (number : ℚ) * 10 ^ place - x.size
          = ((number : ℚ) * 10 ^ place / 2 ^ x.exponent - x.significand) * 2 ^ x.exponent := by
      rw [size]
      field_simp
    rw [writtenSize, result, split, abs_mul, abs_of_pos power]
    linarith [mul_le_mul_of_nonneg_right near power.le]

/-- Where the last place is one or less, a whole number in the text is the number itself. -/
theorem Finite.size_of_writtenSize {k : Nat} (fine : x.exponent ≤ 0) (written : x.writtenSize = k)
    : x.size = k := by
  obtain ⟨e, same⟩ := Int.exists_eq_neg_ofNat fine
  have near := x.abs_writtenSize_sub_le
  have power : (0 : ℚ) < 2 ^ e := by positivity
  rw [written, size, same, zpow_neg, zpow_natCast] at near
  rw [size, same, zpow_neg, zpow_natCast]
  -- In last places both are whole numbers, and they are less than one apart.
  have scaled : |((k * 2 ^ e : Nat) : ℤ) - (x.significand : ℤ)| < 1 := by
    have : |(k : ℚ) * 2 ^ e - x.significand| ≤ 1 / 2 := by
      have split : (k : ℚ) * 2 ^ e - x.significand
          = (k - x.significand * (2 ^ e)⁻¹) * 2 ^ e := by field_simp
      rw [split, abs_mul, abs_of_pos power]
      calc _ ≤ ((2 : ℚ) ^ e)⁻¹ / 2 * 2 ^ e := mul_le_mul_of_nonneg_right near power.le
        _ = 1 / 2 := by field_simp
    have : |(k : ℚ) * 2 ^ e - x.significand| < 1 := by linarith
    exact_mod_cast this
  have exact : k * 2 ^ e = x.significand := by
    rw [abs_lt] at scaled
    omega
  rw [← exact]
  push_cast
  field_simp

/-- A whole number keeps its value in its text where its last place is one or less. -/
theorem Finite.writtenSize_of_isWhole (whole : x.IsWhole) (fine : x.exponent ≤ 0)
    : x.writtenSize = x.size := by
  obtain ⟨k, written⟩ := exists_writtenSize_of_isWhole whole
  rw [written, size_of_writtenSize fine written]

theorem Finite.fraction_div (x : Finite) : (x.fraction.1 : ℚ) / x.fraction.2 = x.size := by
  rw [fraction, size]
  obtain ⟨k, same | same⟩ := Int.eq_nat_or_neg x.exponent <;>
    simp [same, Nat.shiftLeft_eq, div_eq_mul_inv]

/-- A whole number less than one half away is the one that the number rounds to. -/
theorem Finite.nearestInt_eq {k : Nat} (near : |x.size - k| < 1 / 2)
    : x.nearestInt = if x.negative then -(k : Int) else k := by
  have positive : 0 < x.fraction.2 := by
    rw [fraction, Nat.one_shiftLeft]
    positivity
  have rounded : Rounding.halfEven x.fraction.1 x.fraction.2 = k :=
    Rounding.eq_halfEven positive (.inl (by rwa [fraction_div]))
  rw [nearestInt, rounded]

theorem Finite.nearestInt_of_isWhole (whole : x.IsWhole) : (x.nearestInt : ℚ) = x.value := by
  obtain ⟨k, same⟩ := whole
  rw [nearestInt_eq (k := k) (by rw [same, sub_self, abs_zero]; norm_num), value, same, signedBy]
  split <;> simp

end Whole

end RecordFilter.Binary64
