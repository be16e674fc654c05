import RecordFilter.Decimal.Basic
import RecordFilter.Proofs.Rounding
import Mathlib.Tactic.Positivity

/-! Decimal numbers as rational numbers. Equality of decimal numbers is equality of these, and they
are exactly the rational numbers with at most 28 places and a mantissa of 96 bits.
-/

namespace RecordFilter.Decimal

/-- The number without its sign. -/
def size (d : Decimal) : ℚ :=
  d.mantissa / 10 ^ d.scale

def value (d : Decimal) : ℚ :=
  signedBy d.negative d.size

/-- Some decimal number has this value. -/
def Holds (q : ℚ) : Prop :=
  ∃ d : Decimal, d.value = q

theorem size_nonneg (d : Decimal) : 0 ≤ d.size := by
  unfold size
  positivity

theorem abs_value (d : Decimal) : |d.value| = d.size :=
  abs_signedBy _ d.size_nonneg

theorem abs_value_lt (d : Decimal) : |d.value| < 2 ^ 96 := by
  have mantissa : (d.mantissa : ℚ) < 2 ^ 96 := by
    have := d.mantissa_lt
    rw [Nat.one_shiftLeft] at this
    exact_mod_cast this
  have unit : (1 : ℚ) ≤ 10 ^ d.scale := one_le_pow₀ (by norm_num)
  rw [abs_value, size]
  exact lt_of_le_of_lt (div_le_self (by positivity) unit) mantissa

theorem signedBy_natCast (d : Decimal) (n : Nat) : signedBy d.negative n = d.signed n := by
  unfold signedBy signed
  split <;> simp

theorem value_eq_signed_div (d : Decimal)
    : d.value = (d.signed d.mantissa : ℚ) / 10 ^ d.scale := by
  rw [← signedBy_natCast, value, size, signedBy, signedBy]
  split <;> simp [neg_div]

/-- The value is counted in units of the last of 28 places. -/
theorem value_eq_grid_div (d : Decimal) : d.value = (d.grid : ℚ) / 10 ^ 28 := by
  have split : (10 : ℚ) ^ 28 = 10 ^ (28 - d.scale) * 10 ^ d.scale := by
    rw [← pow_add, Nat.sub_add_cancel d.scale_le]
  have step : (d.grid : ℚ) = (d.signed d.mantissa : ℚ) * 10 ^ (28 - d.scale) := by
    unfold grid signed
    cases d.negative <;> simp
  rw [value_eq_signed_div, step, split, mul_comm ((10 : ℚ) ^ (28 - d.scale)),
    mul_div_mul_right _ _ (by positivity)]

theorem grid_eq_iff {left right : Decimal} : left.grid = right.grid ↔ left.value = right.value := by
  rw [value_eq_grid_div, value_eq_grid_div, div_left_inj' (by positivity), Int.cast_inj]

/-- The number of units of the last of 28 places that is nearest to a number; a tie goes away from
zero.
-/
def nearestGrid (q : ℚ) : Int :=
  if q < 0 then -round (-q * 10 ^ 28) else round (q * 10 ^ 28)

theorem nearestGrid_signedBy (negative : Bool) {size : ℚ} (nonneg : 0 ≤ size)
    : nearestGrid (signedBy negative size)
      = if negative then -round (size * 10 ^ 28) else round (size * 10 ^ 28) := by
  cases negative with
  | false => simp [nearestGrid, signedBy, not_lt.mpr nonneg]
  | true =>
      rcases nonneg.eq_or_lt with rfl | positive
      · simp [nearestGrid, signedBy]
      · simp [nearestGrid, signedBy, positive]

/-- A whole number of units needs no rounding. -/
theorem nearestGrid_of_units {q : ℚ} {units : Int} (h : q * 10 ^ 28 = units)
    : nearestGrid q = units := by
  rw [nearestGrid, neg_mul, h]
  split
  · rw [← Int.cast_neg, round_intCast, Int.neg_neg]
  · rw [round_intCast]

/-- A decimal number is its own nearest one. -/
theorem nearestGrid_value (d : Decimal) : nearestGrid d.value = d.grid := by
  have units : d.value * 10 ^ 28 = (d.grid : ℚ) := by
    rw [value_eq_grid_div, div_mul_cancel₀ _ (by positivity)]
  exact nearestGrid_of_units units

theorem nearestGrid_intCast (n : Int) : nearestGrid n = n * 10 ^ 28 := by
  exact nearestGrid_of_units (by push_cast; rfl)

/-- What is rounded to a nearest decimal number keeps its value where such a number can hold it. -/
theorem value_eq_iff_of_nearestGrid {d : Decimal} {q : ℚ} (nearest : d.grid = nearestGrid q)
    : d.value = q ↔ Holds q := by
  refine ⟨fun same => ⟨d, same⟩, fun ⟨d', same⟩ => ?_⟩
  rw [← same] at nearest ⊢
  rw [nearestGrid_value] at nearest
  exact grid_eq_iff.mp nearest

theorem equals_iff {left right : Decimal}
    : left.equals right = true ↔ left.value = right.value := by
  rw [equals, beq_iff_eq, grid_eq_iff]

theorem ofParts?_eq_some_iff {negative : Bool} {mantissa scale : Nat} {d : Decimal}
    : ofParts? negative mantissa scale = some d
      ↔ d.negative = negative ∧ d.mantissa = mantissa ∧ d.scale = scale := by
  unfold ofParts?
  constructor
  · intro h
    split at h
    next =>
      cases h
      exact ⟨rfl, rfl, rfl⟩
    next => cases h
  · intro ⟨negative, mantissa, scale⟩
    subst negative mantissa scale
    rw [dif_pos ⟨d.mantissa_lt, d.scale_le⟩]

/-- A number that has its sign only if it is not zero has the value of its size with the sign. -/
theorem value_eq_signedBy {negative : Bool} {d : Decimal}
    (h : d.negative = (negative && d.mantissa != 0))
    : d.value = signedBy negative d.size := by
  rcases Nat.eq_zero_or_pos d.mantissa with zero | positive
  · have : d.size = 0 := by simp [size, zero]
    simp [value, this, signedBy]
  · rw [value, h, bne_iff_ne.mpr (by omega), Bool.and_true]

theorem isZero_iff {d : Decimal} : d.isZero = true ↔ d.value = 0 := by
  simp [isZero, value, size, signedBy_eq_zero_iff]

theorem value_ofInt64 (n : Int64) : (ofInt64 n).value = n.toInt := by
  have signed : (ofInt64 n).signed (ofInt64 n).mantissa = n.toInt := by
    simp only [signed, ofInt64, decide_eq_true_eq]
    omega
  have scale : (ofInt64 n).scale = 0 := rfl
  rw [value_eq_signed_div, signed, scale, pow_zero, div_one]

/-- A number of these parts has this size, whatever its sign. -/
theorem holds_signedBy_iff {negative : Bool} {size : ℚ} (nonneg : 0 ≤ size)
    : Holds (signedBy negative size)
      ↔ ∃ mantissa scale : Nat,
          mantissa < 1 <<< 96 ∧ scale ≤ 28 ∧ size = mantissa / 10 ^ scale := by
  constructor
  · intro h
    obtain ⟨d, same⟩ := h
    refine ⟨d.mantissa, d.scale, d.mantissa_lt, d.scale_le, ?_⟩
    -- Two sizes that are equal up to sign are equal.
    have : |d.value| = |signedBy negative size| := by rw [same]
    rw [abs_value, abs_signedBy _ nonneg] at this
    exact this.symm
  · intro h
    obtain ⟨mantissa, scale, fits, places, same⟩ := h
    exact ⟨⟨negative, mantissa, scale, fits, places⟩, by rw [value, Decimal.size, same]⟩

/-- A number rounds to the one nearest integer, the even one of two. -/
theorem isNearestEvenInt_iff {d : Decimal} {n : Int}
    : Rounding.IsNearestEvenInt n d.value ↔ n = d.nearestInt := by
  have size
      : Rounding.IsNearestEven (Rounding.halfEven d.mantissa (Nat.pow 10 d.scale)) d.size := by
    have unit : (10 : ℚ) ^ d.scale = (Nat.pow 10 d.scale : Nat) := by simp
    rw [Decimal.size, unit]
    exact Rounding.halfEven_isNearestEven d.mantissa (Nat.pow_pos (by decide))
  have nearest : Rounding.IsNearestEvenInt d.nearestInt d.value := by
    rw [nearestInt, signed, value, signedBy]
    split
    · exact size.int.neg
    · exact size.int
  constructor
  · intro h
    exact h.unique nearest
  · intro same
    rw [same]
    exact nearest

/-- A number has no fraction exactly when its value is a whole number. -/
theorem wholeInt?_eq_some_iff {d : Decimal} {n : Int} : d.wholeInt? = some n ↔ d.value = n := by
  have positive : 0 < Nat.pow 10 d.scale := Nat.pow_pos (by decide)
  have unit : (10 : ℚ) ^ d.scale = (Nat.pow 10 d.scale : Nat) := by simp
  have nonzero : (10 : ℚ) ^ d.scale ≠ 0 := by positivity
  unfold wholeInt?
  dsimp only
  constructor
  · intro h
    split at h
    next even =>
      cases h
      have exact : (d.mantissa : ℚ) = (d.mantissa / Nat.pow 10 d.scale : Nat) * 10 ^ d.scale := by
        rw [unit]
        exact_mod_cast (Nat.div_mul_cancel (Nat.dvd_of_mod_eq_zero even)).symm
      have size : d.size = (d.mantissa / Nat.pow 10 d.scale : Nat) := by
        rw [Decimal.size, div_eq_iff nonzero]
        exact exact
      rw [value, size, signedBy_natCast]
    next => cases h
  · intro h
    rw [value_eq_signed_div, div_eq_iff nonzero, unit] at h
    have whole : d.signed d.mantissa = n * (Nat.pow 10 d.scale : Nat) := by exact_mod_cast h
    -- The mantissa is a multiple of the unit, by the size of the number without its sign.
    have mantissa : d.mantissa = n.natAbs * Nat.pow 10 d.scale := by
      have := congrArg Int.natAbs whole
      unfold signed at this
      split at this <;> simpa [Int.natAbs_mul] using this
    have quotient : d.mantissa / Nat.pow 10 d.scale = n.natAbs := by
      rw [mantissa, Nat.mul_div_cancel _ positive]
    rw [if_pos (by rw [mantissa, Nat.mul_mod_left]), quotient]
    have unitPositive : (0 : Int) < (Nat.pow 10 d.scale : Nat) := by exact_mod_cast positive
    unfold signed at whole ⊢
    split at whole
    next negative =>
      have below : n ≤ 0 := le_of_mul_le_mul_right (by omega) unitPositive
      rw [if_pos negative, Option.some_inj]
      omega
    next positive =>
      have above : 0 ≤ n := le_of_mul_le_mul_right (by omega) unitPositive
      rw [if_neg positive, Option.some_inj]
      omega

end RecordFilter.Decimal
