import RecordFilter.Binary64.Reader
import RecordFilter.Proofs.Binary64.JsonNumber

/-! Floating point numbers from the texts of JSON numbers. A text is read as the number that its
value rounds to, and the text of a number is read back as this number.
-/

namespace RecordFilter.Binary64

open RecordFilter.Text
open RecordFilter.Json (Numeral)

section Numeral

variable (n : Numeral)

theorem exponentPart?_exponentChars
    : exponentPart? (Numeral.exponentChars n.exponent?) = some n.exponent := by
  rw [Numeral.exponent]
  cases part : n.exponent? with
  | none => rfl
  | some part' =>
      obtain ⟨negative, digits⟩ := part'
      have value := natural?_eq_some (n.exponent_ne_nil _ part) (n.isDigit_of_mem_exponent _ part)
      cases negative <;>
        simp [Numeral.exponentChars, Numeral.exponentSign, exponentPart?, value]

theorem spanDigits_append {cs rest : List Char} (digits : ∀ c ∈ cs, isDigit c = true)
    (stop : ∀ c ∈ rest.head?, isDigit c = false)
    : spanDigits (cs ++ rest) = (cs, rest) := by
  obtain ⟨taken, left⟩ := span_digits_append digits stop
  rw [spanDigits, taken, left]

/-- The digits on both sides of the point and the exponent make up a decimal number. -/
theorem unsigned?_numeral (negative : Bool)
    : unsigned? negative
        (n.whole ++ (Decimal.fraction n.places ++ Numeral.exponentChars n.exponent?))
      = some (ofDecimal negative n.mantissa (n.exponent - n.places.length)) := by
  have exponent := exponentPart?_exponentChars n
  have next := @Json.head?_exponentChars_append [] n.exponent? (by simp)
  rw [List.append_nil] at next
  have filled : n.whole.isEmpty = false := by simp [n.whole_ne_nil]
  have stop
      : ∀ c ∈ (Decimal.fraction n.places ++ Numeral.exponentChars n.exponent?).head?,
          isDigit c = false := by
    intro c hc
    unfold Decimal.fraction at hc
    split at hc
    next => exact (next c hc).1
    next =>
      cases hc
      rfl
  rw [unsigned?, spanDigits_append n.isDigit_of_mem_whole stop, Numeral.mantissa]
  dsimp only
  cases places : n.places with
  | nil =>
      rw [Decimal.fraction, List.isEmpty_nil, if_pos rfl, List.nil_append]
      split
      next rest same => simp [same] at next
      next => simp [filled, exponent]
  | cons c cs =>
      have span : spanDigits (c :: cs ++ Numeral.exponentChars n.exponent?)
          = (c :: cs, Numeral.exponentChars n.exponent?) :=
        spanDigits_append (places ▸ n.isDigit_of_mem_places) fun c hc => (next c hc).1
      rw [List.cons_append] at span
      rw [Decimal.fraction, List.isEmpty_cons, if_neg Bool.false_ne_true]
      simp [span, exponent]

/-- The text of a JSON number is read as a decimal number with its sign. -/
theorem ofChars?_chars
    : ofChars? n.chars = some (ofDecimal n.negative n.mantissa (n.exponent - n.places.length)) := by
  have chars
      : n.chars
        = minus n.negative
          ++ (n.whole ++ (Decimal.fraction n.places ++ Numeral.exponentChars n.exponent?)) := by
    simp [Numeral.chars]
  have read := unsigned?_numeral n n.negative
  obtain ⟨c, cs, whole⟩ := List.exists_cons_of_ne_nil n.whole_ne_nil
  have first : isDigit c = true := n.isDigit_of_mem_whole c (by simp [whole])
  rw [chars]
  rw [whole, List.cons_append] at read ⊢
  cases sign : n.negative with
  | true =>
      rw [sign] at read
      simp only [minus, if_true, List.singleton_append, ofChars?, read, Option.some_or]
  | false =>
      rw [sign] at read
      simp only [minus, Bool.false_eq_true, if_false, List.nil_append]
      unfold ofChars?
      -- Digits begin with no sign.
      split
      next same =>
        cases same
        cases first
      next same =>
        cases same
        cases first
      next => rw [read, Option.some_or]

end Numeral

section Decimal

variable {x : Finite} {digits : Nat} {exponent : Int}

/-- What rounds to a number other than zero is neither too large nor too small for the format. -/
theorem Finite.Accepts.bounds {size : ℚ} (positive : 0 < x.significand) (h : x.Accepts size)
    : 10 ^ (-401 : Int) < size ∧ size < 10 ^ (401 : Int) := by
  obtain ⟨_, least, greatest, _⟩ := x.canonical
  constructor
  · have power : 2 ^ 1075 < 10 ^ 401 := by decide +kernel
    have one : (1 : ℚ) ≤ x.significand := by exact_mod_cast positive
    have half : 1 / 2 ≤ size / 2 ^ x.exponent := by
      rcases h.isNearestEven positive with near | ⟨near, _⟩
      · rw [abs_lt] at near
        linarith
      · have := neg_abs_le (size / 2 ^ x.exponent - x.significand)
        linarith
    rw [le_div_iff₀ (by positivity)] at half
    calc (10 : ℚ) ^ (-401 : Int) < 2 ^ (-1075 : Int) := by
          rw [zpow_neg, zpow_neg, inv_lt_inv₀ (by positivity) (by positivity)]
          exact_mod_cast power
      _ ≤ 2 ^ (x.exponent - 1) := zpow_le_zpow_right₀ (by norm_num) (by omega)
      _ = 1 / 2 * 2 ^ x.exponent := by
        rw [zpow_sub_one₀ (by norm_num)]
        ring
      _ ≤ size := half
  · have power : 4 * 2 ^ 53 * 2 ^ 969 < 10 ^ 401 := by decide +kernel
    calc size ≤ 4 * 2 ^ 53 * 2 ^ (x.exponent - 2) := h.le
      _ ≤ 4 * 2 ^ 53 * 2 ^ (969 : Int) := by
        gcongr
        · norm_num
        · omega
      _ < 10 ^ (401 : Int) := by exact_mod_cast power

/-- A decimal number that rounds to a number is taken for it: it is not so far outside the range
that it is settled by its exponent.
-/
theorem ofDecimal_eq (positive : 0 < x.significand) (h : x.Accepts (digits * 10 ^ exponent))
    : ofDecimal x.negative digits exponent = .finite x := by
  have size := h.pos positive
  obtain ⟨large, small⟩ := h.bounds positive
  have some : digits ≠ 0 := by
    rintro rfl
    simp at size
  have ofLt {a b : Int} (h : (10 : ℚ) ^ a < 10 ^ b) : a < b :=
    (zpow_lt_zpow_iff_right₀ (by norm_num)).mp h
  have high : exponent < 401 := by
    have one : (1 : ℚ) ≤ digits := by exact_mod_cast Nat.pos_of_ne_zero some
    refine ofLt (lt_of_le_of_lt ?_ small)
    exact le_mul_of_one_le_left (by positivity) one
  have low : -401 < exponent + (digits.log2 / 3 + 1 : Nat) := by
    have few : digits < 10 ^ (digits.log2 / 3 + 1) := by
      calc digits < 2 ^ (digits.log2 + 1) := Nat.lt_log2_self
        _ ≤ 2 ^ (3 * (digits.log2 / 3 + 1)) := Nat.pow_le_pow_right (by decide) (by omega)
        _ = 8 ^ (digits.log2 / 3 + 1) := by rw [Nat.pow_mul]
        _ ≤ 10 ^ (digits.log2 / 3 + 1) := Nat.pow_le_pow_left (by decide) _
    have few' : (digits : ℚ) < 10 ^ ((digits.log2 / 3 + 1 : Nat) : Int) := by
      rw [zpow_natCast]
      exact_mod_cast few
    refine ofLt (lt_trans large ?_)
    rw [zpow_add₀ (by norm_num), mul_comm]
    gcongr
  have quotient
      : ((digits * Nat.pow 10 exponent.toNat : Nat) : ℚ) / (Nat.pow 10 (-exponent).toNat : Nat)
        = digits * 10 ^ exponent := by
    obtain ⟨k, rfl | rfl⟩ := Int.eq_nat_or_neg exponent <;> simp [div_eq_mul_inv]
  rw [ofDecimal, if_neg some, if_neg (by omega), if_neg (by push_cast at low; omega)]
  exact ofFraction_eq positive (Nat.pow_pos (by decide)) (quotient ▸ h)

end Decimal

/-- The text of a number is read back as the number, with the sign of a zero. -/
theorem Finite.ofChars?_jsonText (x : Finite) : ofChars? x.jsonText.toList = some (.finite x) := by
  obtain ⟨n, text, negative, size, _⟩ := x.exists_numeral
  rw [text, Numeral.text, String.toList_ofList, ofChars?_chars, negative]
  rw [Numeral.size] at size
  rcases Nat.eq_zero_or_pos x.significand with zero | positive
  · have none : n.mantissa = 0 := by
      rw [writtenSize, x.shortest_of_zero zero, Nat.cast_zero, zero_mul, mul_eq_zero] at size
      have power : (10 : ℚ) ^ (n.exponent - n.places.length) ≠ 0 := by positivity
      exact_mod_cast size.resolve_right power
    have least : x.exponent = -1074 := x.canonical.2.2.2 (zero ▸ by decide)
    have same : (⟨x.negative, 0, -1074, by decide⟩ : Finite) = x := by
      cases x
      subst zero least
      rfl
    rw [none, ofDecimal, if_pos rfl, Binary64.zero, ofParts, dif_pos (by decide), same]
  · obtain ⟨number, place, result, accepted, _⟩ := x.exists_shortest positive .even
    rw [writtenSize, result] at size
    rw [ofDecimal_eq positive (size ▸ accepted)]

end RecordFilter.Binary64
