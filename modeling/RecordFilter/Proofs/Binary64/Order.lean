import Mathlib.Order.WithBotTop
import RecordFilter.Proofs.Binary64.Nearest

/-! Floating point numbers in their order. They are compared as the rational numbers that they
denote, with the infinities beyond these on either side; what is not a number is left out.
-/

namespace RecordFilter.Binary64

/-- The rational number that is denoted, or the infinity. -/
def extended? : Binary64 → Option (WithBotTop ℚ)
  | nan => none
  | infinity negative => some (if negative then ⊥ else ⊤)
  | finite x => some x.value

/-- The value is counted in units of the last place of the least exponent. -/
theorem Finite.value_eq_grid_div (x : Finite) : x.value = (x.grid : ℚ) / 2 ^ 1074 := by
  have least : 0 ≤ x.exponent + 1074 := by
    have := x.canonical.2.1
    omega
  obtain ⟨places, shifted⟩ := Int.eq_ofNat_of_zero_le least
  have size : x.size = ((x.significand * 2 ^ places : Nat) : ℚ) / 2 ^ 1074 := by
    rw [Finite.size, eq_sub_of_add_eq shifted, zpow_sub₀ (by norm_num), zpow_natCast, zpow_ofNat,
      ← mul_div_assoc]
    push_cast
    rfl
  rw [value, size, grid, shifted, Int.toNat_natCast, Nat.shiftLeft_eq]
  cases x.negative <;> simp [signedBy, neg_div]

theorem Finite.grid_lt_iff {x y : Finite} : x.grid < y.grid ↔ x.value < y.value := by
  rw [x.value_eq_grid_div, y.value_eq_grid_div, div_lt_div_iff_of_pos_right (by positivity),
    Int.cast_lt]

/-- No finite number comes as far as an infinity. -/
theorem Finite.abs_grid_lt (x : Finite) : |x.grid| < ((1 <<< 2098 : Nat) : Int) := by
  obtain ⟨significand, least, most, _⟩ := x.canonical
  rw [Nat.one_shiftLeft] at significand
  have shift : (x.exponent + 1074).toNat ≤ 2045 := by omega
  have size : x.significand <<< (x.exponent + 1074).toNat < 1 <<< 2098 := by
    calc x.significand <<< (x.exponent + 1074).toNat
        = x.significand * 2 ^ (x.exponent + 1074).toNat := Nat.shiftLeft_eq _ _
      _ < 2 ^ 53 * 2 ^ (x.exponent + 1074).toNat := by gcongr
      _ ≤ 2 ^ 53 * 2 ^ 2045 := by
        gcongr
        exact one_le_two
      _ = 1 <<< (53 + 2045) := by simp only [Nat.one_shiftLeft, Nat.pow_add]
  rw [grid]
  cases x.negative <;> simp <;> exact_mod_cast size

section Places

variable {x y : Binary64} {i j : Int} {p q : WithBotTop ℚ}

theorem exists_rank (hp : x.extended? = some p) : ∃ i, x.rank? = some i := by
  cases x with
  | nan => cases hp
  | infinity _ | finite _ => exact ⟨_, rfl⟩

/-- Ranks are in the order of what is denoted, by cases on what is finite. -/
theorem rank_lt_iff (hi : x.rank? = some i) (hp : x.extended? = some p) (hj : y.rank? = some j)
    (hq : y.extended? = some q)
    : i < j ↔ p < q := by
  cases x <;> cases y <;>
    simp only [rank?, extended?, Option.some.injEq, reduceCtorEq] at hi hp hj hq <;>
    subst hi hp hj hq
  case infinity.infinity negative negative' => cases negative <;> cases negative' <;> simp
  case infinity.finite negative y =>
    obtain ⟨low, high⟩ := abs_lt.mp y.abs_grid_lt
    cases negative with
    | false => exact iff_of_false high.not_gt not_top_lt
    | true => exact iff_of_true low (bot_lt_iff_ne_bot.mpr (WithBotTop.coe_ne_bot _))
  case finite.infinity x negative =>
    obtain ⟨low, high⟩ := abs_lt.mp x.abs_grid_lt
    cases negative with
    | false => exact iff_of_true high (lt_top_iff_ne_top.mpr (WithBotTop.coe_ne_top _))
    | true => exact iff_of_false low.not_gt not_lt_bot
  case finite.finite x y => rw [Finite.grid_lt_iff, WithBotTop.coe_lt_coe]

/-- Numbers are compared as what they denote. -/
theorem compare?_eq_some (hp : x.extended? = some p) (hq : y.extended? = some q)
    : x.compare? y = some (compare p q) := by
  obtain ⟨i, hi⟩ := exists_rank hp
  obtain ⟨j, hj⟩ := exists_rank hq
  have same : compare i j = compare p q := by
    rw [← cmp_eq_compare p q, ← cmp_eq_compare i j]
    simp only [cmp, cmpUsing, rank_lt_iff hi hp hj hq, rank_lt_iff hj hq hi hp]
  rw [compare?, hi, hj, ← same]

end Places

end RecordFilter.Binary64
