import RecordFilter.Proofs.Binary64.Whole

/-! How large the numbers are that texts of floating point numbers denote. Beyond a power of two no
text denotes a number below it, and at the ends of the ranges of 64-bit integers and of decimal
numbers the text denotes a larger number.
-/

namespace RecordFilter.Binary64

/-- Some of the factors of a power of two in front. -/
theorem two_pow_eq_mul (k bits : Nat) : (2 : ℚ) ^ k = 2 ^ bits * 2 ^ ((k : Int) - bits) := by
  rw [← zpow_natCast, ← zpow_natCast, ← zpow_add₀ (by norm_num)]
  congr 1
  ring

variable {x : Finite}

theorem Finite.significand_lt (x : Finite) : x.significand < 2 ^ 53 := by
  have short := x.canonical.1
  rwa [Nat.one_shiftLeft] at short

/-- Where the exponent is not the least one, the significand has all of its bits. -/
theorem Finite.le_significand (normal : -1074 < x.exponent) : 2 ^ 52 ≤ x.significand := by
  obtain ⟨_, _, _, filled⟩ := x.canonical
  by_contra short
  have := filled (by rw [Nat.one_shiftLeft]; omega)
  omega

/-- The exponent of a number that is no smaller than a power of two. -/
theorem Finite.exponent_of_le {k : Nat} (large : (2 : ℚ) ^ k ≤ x.size)
    : (k : Int) - 52 ≤ x.exponent := by
  by_contra low
  have significand : (x.significand : ℚ) < 2 ^ 53 := by exact_mod_cast x.significand_lt
  have power : (2 : ℚ) ^ x.exponent ≤ 2 ^ ((k : Int) - 53) :=
    zpow_le_zpow_right₀ (by norm_num) (by omega)
  have small : x.size < (2 : ℚ) ^ k := by
    calc x.size < 2 ^ 53 * 2 ^ x.exponent := mul_lt_mul_of_pos_right significand (by positivity)
      _ ≤ 2 ^ 53 * 2 ^ ((k : Int) - 53) := by gcongr
      _ = 2 ^ k := (two_pow_eq_mul k 53).symm
  linarith

/-- A number beyond a power of two is written as one beyond it. -/
theorem Finite.lt_writtenSize {k : Nat} (large : (2 : ℚ) ^ k < x.size)
    : (2 : ℚ) ^ k < x.writtenSize := by
  have least := exponent_of_le large.le
  have filled : (2 : ℚ) ^ 52 ≤ x.significand := by exact_mod_cast x.le_significand (by omega)
  have power : (0 : ℚ) < 2 ^ x.exponent := by positivity
  have near := abs_le.mp x.abs_writtenSize_sub_le
  -- It is enough to look at the lower end of what may be written.
  suffices (2 : ℚ) ^ k < (x.significand - 1 / 2) * 2 ^ x.exponent by
    rw [size] at near
    linarith
  rcases least.eq_or_lt with same | above
  · -- The power of two is the least number with this exponent, and the number is another one.
    have split : (2 : ℚ) ^ k = 2 ^ 52 * 2 ^ x.exponent := by
      rw [← same]
      exact two_pow_eq_mul k 52
    rw [split, size] at large
    have next : (2 : ℚ) ^ 52 + 1 ≤ x.significand := by
      have := lt_of_mul_lt_mul_right large power.le
      exact_mod_cast this
    rw [split]
    exact mul_lt_mul_of_pos_right (by linarith) power
  · have wider : (2 : ℚ) ^ ((k : Int) - 51) ≤ 2 ^ x.exponent :=
      zpow_le_zpow_right₀ (by norm_num) (by omega)
    calc (2 : ℚ) ^ k = 2 ^ 51 * 2 ^ ((k : Int) - 51) := two_pow_eq_mul k 51
      _ ≤ 2 ^ 51 * 2 ^ x.exponent := by gcongr
      _ < (x.significand - 1 / 2) * 2 ^ x.exponent :=
        mul_lt_mul_of_pos_right (by linarith) power

/-- The parts of a power of two. -/
theorem Finite.parts_of_size_eq {k : Nat} (same : x.size = 2 ^ k)
    : x.significand = 1 <<< 52 ∧ x.exponent = (k : Int) - 52 := by
  have least := exponent_of_le same.ge
  have filled : (2 : ℚ) ^ 52 ≤ x.significand := by exact_mod_cast x.le_significand (by omega)
  have exponent : x.exponent = (k : Int) - 52 := by
    by_contra other
    have above : (2 : ℚ) ^ ((k : Int) - 52) < 2 ^ x.exponent :=
      zpow_lt_zpow_right₀ (by norm_num) (by omega)
    have larger : (2 : ℚ) ^ k < x.size := by
      calc (2 : ℚ) ^ k = 2 ^ 52 * 2 ^ ((k : Int) - 52) := two_pow_eq_mul k 52
        _ < x.size := mul_lt_mul' filled above (by positivity) (by positivity)
    linarith
  refine ⟨?_, exponent⟩
  rw [size, exponent, two_pow_eq_mul k 52] at same
  have := mul_right_cancel₀ (by positivity) same
  rw [Nat.one_shiftLeft]
  exact_mod_cast this

/-- The shortest digits of the first number beyond the 64-bit integers. -/
theorem Finite.shortest_two_pow_63 (negative : Bool)
    : (⟨negative, 1 <<< 52, 11, by decide⟩ : Finite).shortest .even = (9223372036854776, 3) := by
  cases negative <;> decide +kernel

/-- The shortest digits of the first number beyond the mantissas of decimal numbers. -/
theorem Finite.shortest_two_pow_96 (negative : Bool)
    : (⟨negative, 1 <<< 52, 44, by decide⟩ : Finite).shortest .even = (7922816251426434, 13) := by
  cases negative <;> decide +kernel

/-- Numbers beyond the 64-bit integers are written as such. -/
theorem Finite.two_pow_63_lt_writtenSize (large : (2 : ℚ) ^ 63 ≤ x.size)
    : (2 : ℚ) ^ 63 < x.writtenSize := by
  rcases large.eq_or_lt with same | above
  · obtain ⟨significand, exponent⟩ := parts_of_size_eq same.symm
    have parts : x = ⟨x.negative, 1 <<< 52, 11, by decide⟩ := by
      obtain ⟨_, _, _, _⟩ := x
      simp_all
    rw [writtenSize, parts, shortest_two_pow_63]
    norm_num
  · exact lt_writtenSize above

/-- Numbers beyond the mantissas of decimal numbers are written as such. -/
theorem Finite.two_pow_96_lt_writtenSize (large : (2 : ℚ) ^ 96 ≤ x.size)
    : (2 : ℚ) ^ 96 < x.writtenSize := by
  rcases large.eq_or_lt with same | above
  · obtain ⟨significand, exponent⟩ := parts_of_size_eq same.symm
    have parts : x = ⟨x.negative, 1 <<< 52, 44, by decide⟩ := by
      obtain ⟨_, _, _, _⟩ := x
      simp_all
    rw [writtenSize, parts, shortest_two_pow_96]
    norm_num
  · exact lt_writtenSize above

end RecordFilter.Binary64
