import RecordFilter.Rounding
import Mathlib.Algebra.Order.Round
import Mathlib.Data.Rat.Floor
import Mathlib.Tactic.FieldSimp
import Mathlib.Tactic.Linarith

/-! Quotients as rational numbers, with a sign in front of them, and what rounding makes of them:
the one nearest whole number, where a tie goes to the even one or up.
-/

namespace RecordFilter

/-- A size with a sign in front of it. -/
def signedBy (negative : Bool) (size : ℚ) : ℚ :=
  if negative then -size else size

theorem signedBy_eq_zero_iff {negative : Bool} {size : ℚ}
    : signedBy negative size = 0 ↔ size = 0 := by
  cases negative <;> simp [signedBy]

theorem abs_signedBy (negative : Bool) {size : ℚ} (nonneg : 0 ≤ size)
    : |signedBy negative size| = size := by
  rw [signedBy]
  split
  · rw [abs_neg, abs_of_nonneg nonneg]
  · exact abs_of_nonneg nonneg

namespace Rounding

/-- The whole number is the nearest one, and the even one of two. -/
def IsNearestEven (n : Nat) (q : ℚ) : Prop :=
  |q - n| < 1 / 2 ∨ |q - n| = 1 / 2 ∧ Even n

/-- The integer is the nearest one, and the even one of two. -/
def IsNearestEvenInt (n : Int) (q : ℚ) : Prop :=
  |q - n| < 1 / 2 ∨ |q - n| = 1 / 2 ∧ Even n

/-- There is only one nearest integer: two of them would be neighbours, one of them odd. -/
theorem IsNearestEvenInt.unique {m n : Int} {q : ℚ} (hm : IsNearestEvenInt m q)
    (hn : IsNearestEvenInt n q)
    : m = n := by
  have near : |(m : ℚ) - n| ≤ |q - n| + |q - m| := by
    have := abs_sub_le (m : ℚ) q n
    rw [abs_sub_comm (m : ℚ) q] at this
    linarith
  by_contra apart
  have far : (1 : ℚ) ≤ |(m : ℚ) - n| := by
    have : 1 ≤ |m - n| := Int.one_le_abs (by omega)
    exact_mod_cast this
  rcases hm with hm | ⟨hm, evenM⟩
  · rcases hn with hn | ⟨hn, _⟩ <;> linarith
  · rcases hn with hn | ⟨hn, evenN⟩
    · linarith
    · -- Both are ties, so that the two even numbers are neighbours.
      have one : |m - n| = 1 := by
        have : |(m : ℚ) - n| = 1 := by linarith
        exact_mod_cast this
      obtain ⟨a, rfl⟩ := evenM
      obtain ⟨b, rfl⟩ := evenN
      rw [abs_eq (by norm_num)] at one
      omega

/-- Rounding does not depend on the sign. -/
theorem IsNearestEvenInt.neg {n : Int} {q : ℚ} (h : IsNearestEvenInt n q)
    : IsNearestEvenInt (-n) (-q) := by
  have distance : |-q - (-n : Int)| = |q - n| := by
    rw [Int.cast_neg, neg_sub_neg, abs_sub_comm]
  rwa [IsNearestEvenInt, distance, even_neg]

theorem IsNearestEven.int {n : Nat} {q : ℚ} (h : IsNearestEven n q) : IsNearestEvenInt n q := by
  rwa [IsNearestEvenInt, Int.cast_natCast, Int.even_coe_nat]

theorem IsNearestEven.unique {m n : Nat} {q : ℚ} (hm : IsNearestEven m q)
    (hn : IsNearestEven n q)
    : m = n :=
  Int.ofNat_inj.mp (hm.int.unique hn.int)

/-- A quotient lies above its whole part by the remainder's share of the denominator. -/
theorem div_eq_whole_add (num : Nat) {den : Nat} (positive : 0 < den)
    : (num : ℚ) / den = (num / den : Nat) + ((num % den : Nat) : ℚ) / den := by
  have nonzero : (den : ℚ) ≠ 0 := by exact_mod_cast positive.ne'
  have parts : (num : ℚ) = den * (num / den : Nat) + (num % den : Nat) := by
    exact_mod_cast (Nat.div_add_mod num den).symm
  field_simp
  linarith

theorem halfEven_isNearestEven (num : Nat) {den : Nat} (positive : 0 < den)
    : IsNearestEven (halfEven num den) (num / den) := by
  have hden : (0 : ℚ) < den := by exact_mod_cast positive
  have least : (0 : ℚ) ≤ ((num % den : Nat) : ℚ) / den := by positivity
  have greatest : ((num % den : Nat) : ℚ) / den < 1 := by
    rw [div_lt_one hden]
    exact_mod_cast Nat.mod_lt num positive
  rw [div_eq_whole_add num positive]
  unfold halfEven IsNearestEven
  dsimp only
  split
  next below =>
    have small : ((num % den : Nat) : ℚ) / den < 1 / 2 := by
      rw [div_lt_div_iff₀ hden (by norm_num)]
      exact_mod_cast (by omega : num % den * 2 < 1 * den)
    exact .inl (by rwa [add_sub_cancel_left, abs_of_nonneg least])
  next =>
    split
    next above =>
      have large : 1 / 2 < ((num % den : Nat) : ℚ) / den := by
        rw [div_lt_div_iff₀ (by norm_num) hden]
        exact_mod_cast (by omega : 1 * den < num % den * 2)
      refine .inl ?_
      rw [Nat.cast_add, Nat.cast_one, add_sub_add_left_eq_sub, abs_sub_lt_iff]
      constructor <;> linarith
    next =>
      have half : ((num % den : Nat) : ℚ) / den = 1 / 2 := by
        rw [div_eq_div_iff hden.ne' (by norm_num)]
        exact_mod_cast (by omega : num % den * 2 = 1 * den)
      refine .inr ⟨?_, by rw [Nat.even_iff]; omega⟩
      rcases Nat.mod_two_eq_zero_or_one (num / den) with even | odd
      · rw [even, half, Nat.add_zero, add_sub_cancel_left]
        norm_num
      · rw [odd, half, Nat.cast_add, Nat.cast_one, add_sub_add_left_eq_sub]
        norm_num

theorem eq_halfEven {n num den : Nat} (positive : 0 < den) (h : IsNearestEven n (num / den))
    : halfEven num den = n :=
  (halfEven_isNearestEven num positive).unique h

/-- Rounding halves up is what the rounding of rational numbers does. -/
theorem halfUp_eq_round (num : Nat) {den : Nat} (positive : 0 < den)
    : (halfUp num den : ℤ) = round ((num : ℚ) / den) := by
  have nonzero : (den : ℚ) ≠ 0 := by exact_mod_cast positive.ne'
  have sum : (num : ℚ) / den + 1 / 2 = ((2 * num + den : Nat) : ℚ) / (2 * den : Nat) := by
    push_cast
    field_simp
  rw [round_eq, sum, Rat.floor_natCast_div_natCast]
  rfl

end Rounding

end RecordFilter
