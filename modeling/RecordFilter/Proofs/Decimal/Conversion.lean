import RecordFilter.Decimal.Conversion
import RecordFilter.Proofs.Binary64.Whole
import RecordFilter.Proofs.Decimal.Value

/-! Decimal numbers from floating point numbers. The conversion takes a detour over tenths, which it
does not enter for a number without a fraction: such a number keeps its value or has no room. Every
number below `2 ^ 96` has room.
-/

namespace RecordFilter.Decimal

open RecordFilter.Binary64 (Finite)

namespace MixedBase

/-- Halves are taken off an even mantissa as they are, by induction on their number. -/
theorem spreadHalves_mul_pow (mantissa : Nat) (decimal : Int) (halves : Nat)
    : spreadHalves ⟨mantissa * 2 ^ halves, decimal⟩ halves = ⟨mantissa, decimal + halves⟩ := by
  induction halves generalizing decimal with
  | zero => simp [spreadHalves]
  | succ halves ih =>
      have double : mantissa * 2 ^ (halves + 1) = 2 * (mantissa * 2 ^ halves) := by
        rw [Nat.pow_succ]
        ring
      rw [spreadHalves, double, if_pos (Nat.mul_mod_right 2 _),
        Nat.mul_div_cancel_left _ (by decide), ih]
      congr 1
      push_cast
      ring

/-- Powers of two that all go into tenths double the mantissa, as long as it has room; by induction
on their number.
-/
theorem spreadFives?_eq_some {mantissa fives : Nat} {result : MixedBase}
    (h : spreadFives? ⟨mantissa, fives⟩ fives = some result)
    : result = ⟨mantissa * 2 ^ fives, 0⟩ := by
  induction fives generalizing mantissa with
  | zero =>
      cases h
      simp
  | succ fives ih =>
      rw [spreadFives?] at h
      split at h
      next =>
        have step : ((fives + 1 : Nat) : Int) - 1 = (fives : Int) := by omega
        rw [step] at h
        rw [ih h, Nat.pow_succ]
        congr 1
        ring
      next =>
        -- Without room the exponent is too large for a division to be tried.
        rw [if_pos (by push_cast; omega)] at h
        cases h

/-- A mantissa of 96 bits and no more places than a decimal number can have. -/
structure Fits (x : MixedBase) : Prop where
  mantissa_lt : x.mantissa < 1 <<< 96
  places_le : -28 ≤ x.decimal

variable {x : MixedBase}

/-- Powers of two that leave 96 bits all go into the mantissa, by induction on their number. -/
theorem spreadFives?_of_lt {mantissa fives : Nat} (room : mantissa * 2 ^ fives < 1 <<< 96)
    : spreadFives? ⟨mantissa, fives⟩ fives = some ⟨mantissa * 2 ^ fives, 0⟩ := by
  induction fives generalizing mantissa with
  | zero => simp [spreadFives?]
  | succ fives ih =>
      have double : mantissa * 2 ^ (fives + 1) = mantissa * 2 * 2 ^ fives := by
        rw [Nat.pow_succ]
        ring
      rw [double] at room ⊢
      have free : mantissa < 1 <<< 95 := by
        have := Nat.le_mul_of_pos_right (mantissa * 2) (Nat.two_pow_pos fives)
        omega
      have step : ((fives + 1 : Nat) : Int) - 1 = (fives : Int) := by omega
      rw [spreadFives?, if_pos free, step, ih room]

/-- Halvings keep a mantissa within 96 bits and use up no more than their number, by induction on
them.
-/
theorem spreadHalves_bounds {halves : Nat} (room : x.mantissa < 1 <<< 96)
    (negative : x.decimal + halves ≤ 0)
    : (x.spreadHalves halves).mantissa < 1 <<< 96 ∧ (x.spreadHalves halves).decimal ≤ 0 := by
  induction halves generalizing x with
  | zero => exact ⟨room, by simpa [spreadHalves] using negative⟩
  | succ halves ih =>
      rw [spreadHalves]
      split
      next => exact ih (by dsimp only; omega) (by dsimp only; omega)
      next =>
        split
        next fits => exact ih fits (by dsimp only; omega)
        next => exact ih (by dsimp only; omega) (by dsimp only; omega)

theorem dropDigit_le (mantissa : Nat) : dropDigit mantissa ≤ mantissa := by
  unfold dropDigit
  split <;> omega

/-- Once all excess digits are dropped the places fit, by induction on their number. -/
theorem cutPlaces_fits {excess : Nat} (room : x.mantissa < 1 <<< 96)
    (enough : -28 ≤ x.decimal + excess)
    : (x.cutPlaces excess).Fits := by
  induction excess generalizing x with
  | zero => exact ⟨room, by simpa [MixedBase.cutPlaces] using enough⟩
  | succ excess ih =>
      rw [cutPlaces]
      split
      next => exact ⟨by decide, by decide⟩
      next =>
        exact ih (Nat.lt_of_le_of_lt (dropDigit_le _) room) (by dsimp only; omega)

theorem Fits.cutPrecision (h : x.Fits) (places : Nat) : (x.cutPrecision places).Fits := by
  induction places generalizing x with
  | zero => exact h
  | succ places ih =>
      obtain ⟨room, enough⟩ := h
      rw [MixedBase.cutPrecision]
      split
      next => exact ih ⟨Nat.lt_of_le_of_lt (dropDigit_le _) room, by dsimp only; omega⟩
      next => exact ⟨room, enough⟩

theorem Fits.cutZeros (h : x.Fits) (places : Nat) : (x.cutZeros places).Fits := by
  induction places generalizing x with
  | zero => exact h
  | succ places ih =>
      obtain ⟨room, enough⟩ := h
      rw [MixedBase.cutZeros]
      split
      next => exact ih ⟨Nat.lt_of_le_of_lt (Nat.div_le_self ..) room, by dsimp only; omega⟩
      next => exact ⟨room, enough⟩

/-- What fits is a decimal number. -/
theorem Fits.exists_ofParts? (h : x.Fits) (negative : Bool)
    : ∃ d, ofParts? negative x.mantissa (-x.decimal).toNat = some d := by
  obtain ⟨room, enough⟩ := h
  exact ⟨_, dif_pos ⟨room, by omega⟩⟩

end MixedBase

/-- A number below `2 ^ 96` takes its tenths within 96 bits. -/
theorem exists_raised_of_lt {x : Finite} (small : x.size < 2 ^ 96)
    : ∃ raised,
        (MixedBase.spreadHalves ⟨x.significand, x.exponent⟩ (-x.exponent).toNat).spreadFives?
            x.exponent.toNat
          = some raised
        ∧ raised.mantissa < 1 <<< 96
        ∧ raised.decimal ≤ 0 := by
  obtain ⟨e, same | same⟩ := Int.eq_nat_or_neg x.exponent
  · have none : (-x.exponent).toNat = 0 := by omega
    have room : x.significand * 2 ^ e < 1 <<< 96 := by
      rw [Finite.size, same, zpow_natCast] at small
      rw [Nat.one_shiftLeft]
      exact_mod_cast small
    rw [none, same, Int.toNat_natCast]
    exact ⟨_, MixedBase.spreadFives?_of_lt room, room, Int.le_refl 0⟩
  · have none : x.exponent.toNat = 0 := by omega
    have all : (-x.exponent).toNat = e := by omega
    have room : x.significand < 1 <<< 96 := Nat.lt_trans x.canonical.1 (by decide)
    rw [none, all]
    exact ⟨_, rfl, MixedBase.spreadHalves_bounds room (by dsimp only; omega)⟩

/-- A number below `2 ^ 96` converts to a decimal number. -/
theorem exists_ofFinite? {x : Finite} (small : x.size < 2 ^ 96) : ∃ d, ofFinite? x = some d := by
  unfold ofFinite?
  split
  next => exact ⟨_, rfl⟩
  next =>
    obtain ⟨raised, spread, room, low⟩ := exists_raised_of_lt small
    have none : raised.decimal.toNat = 0 := by omega
    have cut := @MixedBase.cutPlaces_fits raised (-28 - raised.decimal).toNat room (by omega)
    obtain ⟨d, made⟩ := ((cut.cutPrecision _).cutZeros _).exists_ofParts? x.negative
    refine ⟨d, Option.bind_eq_some_iff.mpr ⟨raised, spread, ?_⟩⟩
    rw [none]
    exact made

/-- A number without a fraction takes no tenths on the way. -/
theorem exists_raised_of_isWhole {x : Finite} {raised : MixedBase} (whole : x.IsWhole)
    (h : (MixedBase.spreadHalves ⟨x.significand, x.exponent⟩ (-x.exponent).toNat).spreadFives?
        x.exponent.toNat = some raised)
    : ∃ k : Nat, raised = ⟨k, 0⟩ ∧ x.size = k := by
  obtain ⟨e, same | same⟩ := Int.eq_nat_or_neg x.exponent
  · have none : (-x.exponent).toNat = 0 := by omega
    rw [none, same, Int.toNat_natCast] at h
    refine ⟨x.significand * 2 ^ e, MixedBase.spreadFives?_eq_some h, ?_⟩
    rw [Finite.size, same, zpow_natCast]
    push_cast
    rfl
  · obtain ⟨k, size⟩ := whole
    have significand : x.significand = k * 2 ^ e := by
      rw [Finite.size, same, zpow_neg, zpow_natCast, ← div_eq_mul_inv,
        div_eq_iff (by positivity)] at size
      exact_mod_cast size
    have none : x.exponent.toNat = 0 := by omega
    have all : (-x.exponent).toNat = e := by omega
    rw [none, all, significand, MixedBase.spreadHalves_mul_pow, same, Int.add_left_neg] at h
    cases h
    exact ⟨k, rfl, size⟩

/-- A number without a fraction keeps its value. -/
theorem value_of_ofFinite? {x : Finite} {d : Decimal} (whole : x.IsWhole)
    (h : ofFinite? x = some d)
    : d.value = x.value := by
  unfold ofFinite? at h
  split at h
  next zero =>
    cases h
    have none : x.significand = 0 := by simpa [Finite.isZero] using zero
    simp [Decimal.zero, value, size, Finite.value, Finite.size, none, signedBy]
  next =>
    obtain ⟨raised, spread, h⟩ := Option.bind_eq_some_iff.mp h
    obtain ⟨k, rfl, size⟩ := exists_raised_of_isWhole whole spread
    -- Without tenths there is nothing to fill up and nothing to cut.
    have made : ofParts? x.negative k 0 = some d := h
    obtain ⟨negative, mantissa, scale⟩ := ofParts?_eq_some_iff.mp made
    rw [value, Decimal.size, negative, mantissa, scale, pow_zero, div_one, ← size]
    rfl

end RecordFilter.Decimal
