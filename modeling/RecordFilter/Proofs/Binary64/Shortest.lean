import RecordFilter.Proofs.Binary64.Nearest

/-! The shortest decimal number that rounds to a floating point number. The search always ends at a
point of the rounding interval, with seventeen or eighteen digits at most, and at a whole number for
a whole number.
-/

namespace RecordFilter.Binary64

namespace RoundingInterval

variable {interval : RoundingInterval} {tie : Tie} {unit factor n : Nat}

theorem holds_scale_iff (positive : 0 < factor)
    : (interval.scale factor).holds n = true ↔ interval.Covers (n / factor) := by
  have hfactor : (0 : ℚ) < factor := by exact_mod_cast positive
  unfold holds Covers scale
  dsimp only
  split
  · rw [Bool.and_eq_true, decide_eq_true_iff, decide_eq_true_iff, le_div_iff₀ hfactor,
      div_le_iff₀ hfactor]
    exact_mod_cast Iff.rfl
  · rw [Bool.and_eq_true, decide_eq_true_iff, decide_eq_true_iff, lt_div_iff₀ hfactor,
      div_lt_iff₀ hfactor]
    exact_mod_cast Iff.rfl

/-- The point that is found lies in the interval; of two in a tie both do. -/
theorem holds_of_nearest? (h : interval.nearest? tie unit = some n)
    : interval.holds (n * unit) = true := by
  unfold nearest? at h
  dsimp only at h
  split at h
  next => cases h
  next inside _ =>
    cases h
    exact inside
  next inside =>
    cases h
    exact inside
  next below above =>
    split at h
    next =>
      cases h
      exact below
    next =>
      split at h
      next =>
        cases h
        exact above
      next =>
        cases tie with
        | up =>
            cases h
            exact above
        | even =>
            cases h
            rcases Nat.mod_two_eq_zero_or_one (interval.middle / unit) with even | odd
            · rwa [even, Nat.add_zero]
            · rwa [odd]

/-- A point is found where one of the two around the middle lies in the interval. -/
theorem exists_nearest? (h : interval.holds (interval.middle / unit * unit) = true
      ∨ interval.holds ((interval.middle / unit + 1) * unit) = true)
    : ∃ n, interval.nearest? tie unit = some n := by
  unfold nearest?
  dsimp only
  split
  next below above =>
    rw [below, above] at h
    simp at h
  next => exact ⟨_, rfl⟩
  next => exact ⟨_, rfl⟩
  next =>
    split
    · exact ⟨_, rfl⟩
    · split
      · exact ⟨_, rfl⟩
      · cases tie <;> exact ⟨_, rfl⟩

end RoundingInterval

section Grid

variable {x : Finite} {tie : Tie} {place : Int} {n : Nat}

theorem pow_shiftLeft_pos (a b : Nat) : 0 < Nat.pow 10 a <<< b := by
  rw [Nat.shiftLeft_eq]
  have : 0 < Nat.pow 10 a := Nat.pow_pos (by decide)
  positivity

/-- The unit of a grid in quarters of the last place, as the quotient of two whole numbers. -/
theorem unit_div_factor (quarter place : Int)
    : ((Nat.pow 10 place.toNat <<< (-quarter).toNat : Nat) : ℚ)
        / (Nat.pow 10 (-place).toNat <<< quarter.toNat : Nat)
      = 10 ^ place / 2 ^ quarter := by
  obtain ⟨j, rfl | rfl⟩ := Int.eq_nat_or_neg place <;>
    obtain ⟨k, rfl | rfl⟩ := Int.eq_nat_or_neg quarter <;>
    simp [Nat.shiftLeft_eq] <;> ring

/-- The point that is found on a grid rounds to the number. -/
theorem Finite.accepts_of_onGrid? (h : x.onGrid? tie place = some n)
    : x.Accepts (n * 10 ^ place) := by
  have inside := RoundingInterval.holds_of_nearest? h
  rw [RoundingInterval.holds_scale_iff (pow_shiftLeft_pos _ _), Nat.cast_mul, mul_div_assoc,
    unit_div_factor] at inside
  rwa [Accepts, mul_div_assoc]

/-- Whatever lies less than half a last place above the number rounds to it. -/
theorem Finite.holds_of_between {factor m : Nat} (positive : 0 < x.significand)
    (least : 4 * x.significand * factor ≤ m)
    (greatest : m < 4 * x.significand * factor + 2 * factor)
    : (x.interval.scale factor).holds m = true := by
  have below : x.interval.lower * factor < 4 * x.significand * factor := by
    refine Nat.mul_lt_mul_of_pos_right ?_ (by omega)
    simp only [interval]
    split <;> omega
  have above : x.interval.upper * factor = 4 * x.significand * factor + 2 * factor := by
    simp only [interval, Nat.add_mul]
  unfold RoundingInterval.holds RoundingInterval.scale
  dsimp only
  split <;> simp <;> omega

/-- A grid as fine as a quarter of the last place has a point in the interval. -/
theorem Finite.exists_onGrid?_of_fine (positive : 0 < x.significand)
    (fine : (10 : ℚ) ^ place ≤ 2 ^ (x.exponent - 2))
    : ∃ n, x.onGrid? tie place = some n := by
  refine RoundingInterval.exists_nearest? (.inr ?_)
  have small := unit_div_factor (x.exponent - 2) place
  generalize hunit : Nat.pow 10 place.toNat <<< (-(x.exponent - 2)).toNat = unit at small ⊢
  generalize hfactor
    : Nat.pow 10 (-place).toNat <<< (x.exponent - 2).toNat = factor at small ⊢
  have unitPositive : 0 < unit := hunit ▸ pow_shiftLeft_pos _ _
  have factorPositive : 0 < factor := hfactor ▸ pow_shiftLeft_pos _ _
  have narrow : unit ≤ factor := by
    have : (unit : ℚ) / factor ≤ 1 := by
      rw [small, div_le_one (by positivity)]
      exact fine
    rw [div_le_one (by exact_mod_cast factorPositive)] at this
    exact_mod_cast this
  have split := Nat.div_add_mod (4 * x.significand * factor) unit
  have rest := Nat.mod_lt (4 * x.significand * factor) unitPositive
  change (x.interval.scale factor).holds ((4 * x.significand * factor / unit + 1) * unit) = true
  rw [Nat.mul_comm unit] at split
  refine x.holds_of_between positive ?_ ?_ <;> rw [Nat.add_mul] <;> omega

/-- A grid that has the number itself as a point has a point in the interval. -/
theorem Finite.exists_onGrid?_of_multiple (positive : 0 < x.significand)
    (h : x.size = n * 10 ^ place)
    : ∃ n, x.onGrid? tie place = some n := by
  refine RoundingInterval.exists_nearest? (.inl ?_)
  have ratio := unit_div_factor (x.exponent - 2) place
  generalize hunit : Nat.pow 10 place.toNat <<< (-(x.exponent - 2)).toNat = unit at ratio ⊢
  generalize hfactor
    : Nat.pow 10 (-place).toNat <<< (x.exponent - 2).toNat = factor at ratio ⊢
  have unitPositive : 0 < unit := hunit ▸ pow_shiftLeft_pos _ _
  have factorPositive : 0 < factor := hfactor ▸ pow_shiftLeft_pos _ _
  have exact : 4 * x.significand * factor = n * unit := by
    have : (4 * x.significand : ℚ) = n * (unit / factor) := by
      rw [ratio, ← mul_div_assoc, ← h, div_quarter, size]
      field_simp
    rw [← mul_div_assoc, eq_div_iff (by exact_mod_cast factorPositive.ne')] at this
    exact_mod_cast this
  change (x.interval.scale factor).holds (4 * x.significand * factor / unit * unit) = true
  rw [exact, Nat.mul_div_cancel _ unitPositive, ← exact]
  exact x.holds_of_between positive (Nat.le_refl _) (by omega)

/-- The search ends at the coarsest grid with a point in the interval; by induction on the fuel. -/
theorem Finite.exists_shortestFrom {least start : Int} {fuel : Nat}
    (found : ∃ n, x.onGrid? tie least = some n) (within : least ≤ start)
    (enough : start < least + fuel)
    : ∃ n last,
        x.shortestFrom tie start fuel = (n, last)
        ∧ x.onGrid? tie last = some n
        ∧ (last = start ∨ x.onGrid? tie (last + 1) = none)
        ∧ ∀ place ≤ start, (∃ n, x.onGrid? tie place = some n) → place ≤ last := by
  induction fuel generalizing start with
  | zero => omega
  | succ fuel ih =>
      rw [shortestFrom]
      cases here : x.onGrid? tie start with
      | some n => exact ⟨n, start, rfl, here, .inl rfl, fun place below _ => below⟩
      | none =>
          have other {place : Int} (found : ∃ n, x.onGrid? tie place = some n) : place ≠ start := by
            rintro rfl
            obtain ⟨n, found⟩ := found
            rw [here] at found
            cases found
          have := other found
          obtain ⟨n, last, result, hit, miss, coarsest⟩ := @ih (start - 1) (by omega) (by omega)
          refine ⟨n, last, result, hit, .inr ?_, fun place below found => ?_⟩
          · rcases miss with rfl | miss
            · rwa [Int.sub_add_cancel]
            · exact miss
          · have := other found
            exact coarsest place (by omega) found

/-- The shortest digits round to the number, and all grids coarser than theirs have no point that
does; theirs is not much finer than a quarter of the last place.
-/
theorem Finite.exists_shortest (positive : 0 < x.significand) (tie : Tie)
    : ∃ n place,
        x.shortest tie = (n, place)
        ∧ x.Accepts (n * 10 ^ place)
        ∧ (2 : ℚ) ^ (x.exponent - 2) < 10 ^ (place + 1)
        ∧ ∀ coarse ≤ 309, (∃ n, x.onGrid? tie coarse = some n) → coarse ≤ place := by
  obtain ⟨_, least, greatest, _⟩ := x.canonical
  have finest : (10 : ℚ) ^ (-325 : Int) ≤ 2 ^ (x.exponent - 2) := by
    have power : 2 ^ 1076 ≤ 10 ^ 325 := by decide +kernel
    calc (10 : ℚ) ^ (-325 : Int) ≤ 2 ^ (-1076 : Int) := by
          rw [zpow_neg, zpow_neg, inv_le_inv₀ (by positivity) (by positivity)]
          exact_mod_cast power
      _ ≤ 2 ^ (x.exponent - 2) := zpow_le_zpow_right₀ (by norm_num) (by omega)
  have found : ∃ n, x.onGrid? tie (-325) = some n := x.exists_onGrid?_of_fine positive finest
  obtain ⟨n, place, result, hit, miss, coarsest⟩ :=
    exists_shortestFrom found (by norm_num : -325 ≤ 309)
      (by norm_num : (309 : Int) < -325 + (635 : Nat))
  refine ⟨n, place, ?_, accepts_of_onGrid? hit, ?_, coarsest⟩
  · have nonzero : x.isZero = false := by simp [isZero]; omega
    rw [shortest, nonzero]
    exact result
  · rcases miss with rfl | miss
    · have power : 2 ^ 969 < 10 ^ 310 := by decide +kernel
      calc (2 : ℚ) ^ (x.exponent - 2) ≤ 2 ^ (969 : Int) :=
          zpow_le_zpow_right₀ (by norm_num) (by omega)
        _ < 10 ^ ((310 : Nat) : Int) := by
          rw [zpow_natCast]
          exact_mod_cast power
    · by_contra coarse
      rw [not_lt] at coarse
      obtain ⟨n, found⟩ : ∃ n, x.onGrid? tie (place + 1) = some n :=
        x.exists_onGrid?_of_fine positive coarse
      rw [miss] at found
      cases found

end Grid

end RecordFilter.Binary64
