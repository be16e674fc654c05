import Mathlib.Algebra.Order.Field.Power
import RecordFilter.Binary64.Shortest
import RecordFilter.Proofs.Rounding

/-! Floating point numbers as rational numbers, and the interval of those that round to a given one:
every fraction in it is taken for this number.
-/

namespace RecordFilter.Binary64

/-- The number without its sign. -/
def Finite.size (x : Finite) : ℚ :=
  x.significand * 2 ^ x.exponent

def Finite.value (x : Finite) : ℚ :=
  signedBy x.negative x.size

theorem Finite.size_nonneg (x : Finite) : 0 ≤ x.size := by
  unfold size
  positivity

theorem Finite.abs_value (x : Finite) : |x.value| = x.size :=
  abs_signedBy _ x.size_nonneg

/-- A place in quarters of the last place lies in the interval. -/
def RoundingInterval.Covers (interval : RoundingInterval) (place : ℚ) : Prop :=
  if interval.closed then
    interval.lower ≤ place ∧ place ≤ interval.upper
  else
    interval.lower < place ∧ place < interval.upper

/-- Rounding takes the size for that of the number. -/
def Finite.Accepts (x : Finite) (size : ℚ) : Prop :=
  x.interval.Covers (size / 2 ^ (x.exponent - 2))

section Fractions

variable {num den : Nat}

theorem scaleDown_div (num den : Nat) (exponent : Int)
    : ((scaleDown num den exponent).1 : ℚ) / (scaleDown num den exponent).2
      = num / den / 2 ^ exponent := by
  obtain ⟨k, rfl | rfl⟩ := Int.eq_nat_or_neg exponent
  · simp [scaleDown, Nat.shiftLeft_eq, div_div]
  · simp [scaleDown, Nat.shiftLeft_eq]
    ring

theorem scaleDown_pos (positive : 0 < den) (exponent : Int)
    : 0 < (scaleDown num den exponent).2 := by
  simp only [scaleDown, Nat.shiftLeft_eq]
  positivity

/-- Twice as much as a number of bits is enough. -/
theorem two_zpow_log2_bounds {n : Nat} (positive : 0 < n)
    : (2 : ℚ) ^ (n.log2 : Int) ≤ n ∧ (n : ℚ) < 2 ^ ((n.log2 : Int) + 1) := by
  constructor
  · rw [zpow_natCast]
    exact_mod_cast Nat.log2_self_le positive.ne'
  · have := @Nat.lt_log2_self n
    rw [show (n.log2 : Int) + 1 = ((n.log2 + 1 : Nat) : Int) by push_cast; rfl, zpow_natCast]
    exact_mod_cast this

/-- The lengths of both parts of a fraction tell its size up to a factor of four. -/
theorem log2_bounds_div (hn : 0 < num) (hd : 0 < den)
    : (2 : ℚ) ^ ((num.log2 : Int) - den.log2 - 1) < num / den
      ∧ (num : ℚ) / den < 2 ^ ((num.log2 : Int) - den.log2 + 1) := by
  have hden : (0 : ℚ) < den := by exact_mod_cast hd
  obtain ⟨lowNum, highNum⟩ := two_zpow_log2_bounds hn
  obtain ⟨lowDen, highDen⟩ := two_zpow_log2_bounds hd
  constructor
  · rw [lt_div_iff₀ hden]
    calc (2 : ℚ) ^ ((num.log2 : Int) - den.log2 - 1) * den
        < 2 ^ ((num.log2 : Int) - den.log2 - 1) * 2 ^ ((den.log2 : Int) + 1) := by gcongr
      _ = 2 ^ (num.log2 : Int) := by
        rw [← zpow_add₀ (by norm_num)]
        congr 1
        omega
      _ ≤ num := lowNum
  · rw [div_lt_iff₀ hden]
    calc (num : ℚ) < 2 ^ ((num.log2 : Int) + 1) := highNum
      _ = 2 ^ ((num.log2 : Int) - den.log2 + 1) * 2 ^ (den.log2 : Int) := by
        rw [← zpow_add₀ (by norm_num)]
        congr 1
        omega
      _ ≤ 2 ^ ((num.log2 : Int) - den.log2 + 1) * den := by gcongr

/-- A scaled fraction is compared with a power of two as the fraction with a greater one. -/
theorem scaleDown_lt_iff (hd : 0 < den) (exponent : Int) (bits : Nat)
    : (scaleDown num den exponent).1 < (scaleDown num den exponent).2 <<< bits
      ↔ (num : ℚ) / den < 2 ^ (exponent + bits) := by
  have positive : (0 : ℚ) < (scaleDown num den exponent).2 := by
    exact_mod_cast scaleDown_pos hd exponent
  rw [zpow_add₀ (by norm_num), mul_comm, ← div_lt_iff₀ (by positivity), ← scaleDown_div,
    div_lt_iff₀ positive, Nat.shiftLeft_eq, mul_comm, zpow_natCast]
  exact_mod_cast Iff.rfl

/-- The significand at the exponent of a fraction has no more than 53 bits, and as many as these
unless the exponent is the least one.
-/
theorem exponentOf_bounds (hn : 0 < num) (hd : 0 < den)
    : -1074 ≤ exponentOf num den
      ∧ (num : ℚ) / den < 2 ^ (exponentOf num den + 53)
      ∧ (exponentOf num den = -1074 ∨ (2 : ℚ) ^ (exponentOf num den + 52) ≤ num / den) := by
  obtain ⟨low, high⟩ := log2_bounds_div hn hd
  obtain ⟨guess, hguess⟩ : ∃ guess : Int, guess = num.log2 - den.log2 - 52 := ⟨_, rfl⟩
  have test := @scaleDown_lt_iff num den hd guess 52
  have grows {a b : Int} (h : a ≤ b) : (2 : ℚ) ^ a ≤ 2 ^ b := zpow_le_zpow_right₀ (by norm_num) h
  simp only [exponentOf, ← hguess]
  -- The guess is right or one too large, and the least exponent may lie above either.
  split
  next below =>
    rw [test] at below
    refine ⟨Int.le_max_left _ _, lt_of_lt_of_le below (grows (by push_cast; omega)), ?_⟩
    rcases Int.le_total (guess - 1) (-1074) with least | above
    · exact .inl (Int.max_eq_left least)
    · rw [Int.max_eq_right above]
      exact .inr (le_trans (grows (by omega)) low.le)
  next above =>
    rw [test, not_lt] at above
    refine ⟨Int.le_max_left _ _, lt_of_lt_of_le high (grows (by omega)), ?_⟩
    rcases Int.le_total guess (-1074) with least | within
    · exact .inl (Int.max_eq_left least)
    · rw [Int.max_eq_right within]
      exact .inr above

end Fractions

section Accepts

variable {x : Finite} {size : ℚ}

theorem div_quarter (size : ℚ) (exponent : Int)
    : size / 2 ^ (exponent - 2) = 4 * (size / 2 ^ exponent) := by
  rw [zpow_sub₀ (by norm_num), div_div_eq_mul_div]
  ring

/-- What rounds to a number is nearest to it at its exponent. -/
theorem Finite.Accepts.isNearestEven (positive : 0 < x.significand) (h : x.Accepts size)
    : Rounding.IsNearestEven x.significand (size / 2 ^ x.exponent) := by
  unfold Accepts RoundingInterval.Covers at h
  rw [div_quarter] at h
  generalize size / 2 ^ x.exponent = place at h
  have lower : (4 * x.significand - 2 : ℚ) ≤ x.interval.lower := by
    simp only [interval]
    split
    · rw [Nat.cast_sub (by omega)]
      push_cast
      linarith
    · rw [Nat.cast_sub (by omega)]
      push_cast
      linarith
  have upper : (x.interval.upper : ℚ) = 4 * x.significand + 2 := by
    simp [interval]
  have closed : x.interval.closed = true ↔ Even x.significand := by
    simp [interval, Nat.even_iff]
  unfold Rounding.IsNearestEven
  split at h
  next even =>
    rw [closed] at even
    have near : |place - x.significand| ≤ 1 / 2 := by
      rw [abs_le]
      constructor <;> linarith
    rcases near.lt_or_eq with near | tie
    · exact .inl near
    · exact .inr ⟨tie, even⟩
  next =>
    refine .inl ?_
    rw [abs_lt]
    constructor <;> linarith

/-- Below a power of two only half as much rounds up to it. -/
theorem Finite.Accepts.sub_quarter_le (h : x.Accepts size) (power : x.significand = 1 <<< 52)
    (normal : -1074 < x.exponent)
    : (x.significand : ℚ) - 1 / 4 ≤ size / 2 ^ x.exponent := by
  unfold Accepts RoundingInterval.Covers at h
  rw [div_quarter] at h
  have lower : (x.interval.lower : ℚ) = 4 * x.significand - 1 := by
    simp only [interval, if_pos (And.intro power normal)]
    rw [Nat.cast_sub (by omega)]
    push_cast
    ring
  split at h <;> linarith

theorem Finite.Accepts.pos (positive : 0 < x.significand) (h : x.Accepts size) : 0 < size := by
  have least : (1 : ℚ) ≤ x.significand := by exact_mod_cast positive
  have above : 0 < size / 2 ^ x.exponent := by
    rcases h.isNearestEven positive with near | ⟨near, _⟩
    · rw [abs_lt] at near
      linarith
    · rw [abs_eq (by norm_num)] at near
      rcases near with near | near <;> linarith
  simpa using (div_pos_iff_of_pos_right (by positivity)).mp above

/-- Sizes that round to a number lie below the power of two that its significand stays below. -/
theorem Finite.Accepts.lt_of_canonical (positive : 0 < x.significand) (h : x.Accepts size)
    : size < 2 ^ (x.exponent + 53) := by
  have near : size / 2 ^ x.exponent - x.significand ≤ 1 / 2 := by
    rcases h.isNearestEven positive with near | ⟨near, _⟩
    · exact (abs_lt.mp near).2.le
    · exact (abs_le.mp near.le).2
  have short : (x.significand : ℚ) ≤ 2 ^ 53 - 1 := by
    have : x.significand + 1 ≤ 2 ^ 53 := x.canonical.1
    have : ((x.significand + 1 : Nat) : ℚ) ≤ 2 ^ 53 := by exact_mod_cast this
    push_cast at this
    linarith
  rw [zpow_add₀ (by norm_num), mul_comm, ← div_lt_iff₀ (by positivity)]
  have : (2 : ℚ) ^ (53 : Int) = 2 ^ 53 := by norm_num
  linarith

/-- Only a power of two is what smaller sizes than itself of fewer bits round to, and these are not
much smaller.
-/
theorem Finite.Accepts.of_lt (positive : 0 < x.significand) (h : x.Accepts size)
    (normal : x.exponent ≠ -1074) (small : size < 2 ^ (x.exponent + 52))
    : x.significand = 1 <<< 52
      ∧ -1074 < x.exponent
      ∧ size / 2 ^ x.exponent < 2 ^ 52
      ∧ (2 : ℚ) ^ (x.exponent + 51) ≤ size := by
  obtain ⟨_, range, _, subnormal⟩ := x.canonical
  have power : (0 : ℚ) < 2 ^ x.exponent := by positivity
  have near : (x.significand : ℚ) - size / 2 ^ x.exponent ≤ 1 / 2 := by
    rcases h.isNearestEven positive with near | ⟨near, _⟩
    · linarith [(abs_lt.mp near).1]
    · linarith [(abs_le.mp near.le).1]
  have scaled : size / 2 ^ x.exponent < 2 ^ 52 := by
    rw [zpow_add₀ (by norm_num), mul_comm, ← div_lt_iff₀ power] at small
    simpa using small
  have filled : 1 <<< 52 ≤ x.significand := by
    by_contra short
    exact normal (subnormal (by omega))
  have single : x.significand = 1 <<< 52 := by
    have : (x.significand : ℚ) < 2 ^ 52 + 1 := by linarith
    have : x.significand < 2 ^ 52 + 1 := by exact_mod_cast this
    simp only [Nat.one_shiftLeft] at filled ⊢
    omega
  have quarter := h.sub_quarter_le single (by omega)
  refine ⟨single, by omega, scaled, ?_⟩
  rw [zpow_add₀ (by norm_num), mul_comm, ← le_div_iff₀ power]
  rw [single] at quarter
  norm_num [Nat.one_shiftLeft] at quarter ⊢
  linarith

/-- A fraction that rounds to a number has its exponent, or the one below when the number is a power
of two and the fraction is smaller.
-/
theorem exponentOf_eq {num den : Nat} (hn : 0 < num) (hd : 0 < den)
    (positive : 0 < x.significand) (h : x.Accepts (num / den))
    : exponentOf num den = x.exponent
      ∨ exponentOf num den = x.exponent - 1
        ∧ x.significand = 1 <<< 52
        ∧ -1074 < x.exponent
        ∧ (num : ℚ) / den / 2 ^ x.exponent < 2 ^ 52 := by
  obtain ⟨least, below, above⟩ := exponentOf_bounds hn hd
  have range := x.canonical.2.1
  have ofLt {a b : Int} (h : (2 : ℚ) ^ a < 2 ^ b) : a < b :=
    (zpow_lt_zpow_iff_right₀ (by norm_num)).mp h
  -- A greater exponent would make the significand of the fraction too short.
  have upper : exponentOf num den ≤ x.exponent := by
    rcases above with same | filled
    · omega
    · have := ofLt (lt_of_le_of_lt filled (h.lt_of_canonical positive))
      omega
  by_cases full : (2 : ℚ) ^ (x.exponent + 52) ≤ num / den
  · have := ofLt (lt_of_le_of_lt full below)
    exact .inl (by omega)
  · by_cases bottom : x.exponent = -1074
    · exact .inl (by omega)
    · obtain ⟨single, normal, small, half⟩ := h.of_lt positive bottom (not_le.mp full)
      have := ofLt (lt_of_le_of_lt half below)
      by_cases same : exponentOf num den = x.exponent
      · exact .inl same
      · exact .inr ⟨by omega, single, normal, small⟩

/-- A fraction that rounds to a number is taken for it. -/
theorem ofFraction_eq {num den : Nat} (positive : 0 < x.significand) (hd : 0 < den)
    (h : x.Accepts (num / den))
    : ofFraction x.negative num den = .finite x := by
  have hn : 0 < num := by
    refine Nat.pos_of_ne_zero fun zero => ?_
    have := h.pos positive
    simp [zero] at this
  have rounded {n : Nat}
      (near : Rounding.IsNearestEven n ((num : ℚ) / den / 2 ^ exponentOf num den))
      : Rounding.halfEven (scaleDown num den (exponentOf num den)).1
          (scaleDown num den (exponentOf num den)).2 = n := by
    rw [← scaleDown_div] at near
    exact Rounding.eq_halfEven (scaleDown_pos hd _) near
  have parts : ofParts x.negative x.significand x.exponent = .finite x := dif_pos x.canonical
  rw [ofFraction, if_neg hn.ne']
  dsimp only
  rcases exponentOf_eq hn hd positive h with same | ⟨below, power, normal, small⟩
  · have short := x.canonical.1
    rw [rounded (same ▸ h.isNearestEven positive), same, if_neg short.ne, parts]
  · have quarter := h.sub_quarter_le power normal
    have twice : (num : ℚ) / den / 2 ^ exponentOf num den
        = 2 * ((num : ℚ) / den / 2 ^ x.exponent) := by
      rw [below, zpow_sub₀ (by norm_num), div_div_eq_mul_div]
      ring
    have near
        : Rounding.IsNearestEven (1 <<< 53) ((num : ℚ) / den / 2 ^ exponentOf num den) := by
      rw [twice]
      rw [power] at quarter
      generalize (num : ℚ) / den / 2 ^ x.exponent = place at quarter small
      have close : |2 * place - (1 <<< 53 : Nat)| ≤ 1 / 2 := by
        rw [abs_le]
        norm_num [Nat.one_shiftLeft] at quarter small ⊢
        constructor <;> linarith
      rcases close.lt_or_eq with close | tie
      · exact .inl close
      · exact .inr ⟨tie, by decide⟩
    rw [rounded near, if_pos rfl, below, Int.sub_add_cancel, ← power, parts]

end Accepts

end RecordFilter.Binary64
