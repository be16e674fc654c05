import RecordFilter.Binary64.Reader
import RecordFilter.Proofs.Integer

/-! The digits of a whole number are read as the floating point number nearest to it. -/

namespace RecordFilter.Binary64

open RecordFilter.Text

theorem ofDecimal_zero (negative : Bool) (n : Nat)
    : ofDecimal negative n 0 = ofFraction negative n 1 := by
  have near : ¬ (n.log2 : Int) / 3 + 1 < -400 := by omega
  unfold ofDecimal
  split
  next h => simp [h, ofFraction]
  next => simp [near]

theorem unsigned?_toDigits (negative : Bool) (n : Nat)
    : unsigned? negative (Nat.toDigits 10 n) = some (ofFraction negative n 1) := by
  have digits : ∀ c ∈ Nat.toDigits 10 n, isDigit c = true := fun c hc => isDigit_of_mem_toDigits hc
  have span : spanDigits (Nat.toDigits 10 n) = (Nat.toDigits 10 n, []) := by
    have parts := @span_digits_append _ [] digits (by simp)
    rw [List.append_nil] at parts
    rw [spanDigits, parts.1, parts.2]
  have value : digitsValue (Nat.toDigits 10 n) = n := by
    rw [toDigits_eq_padded, digitsValue_padded]
  simp [unsigned?, span, exponentPart?, value, ofDecimal_zero]

theorem ofChars?_toString (n : Int) : ofChars? (toString n).toList = some (ofInt n) := by
  rw [Integer.toList_toString, ofInt]
  by_cases negative : n < 0
  · simp [negative, minus, ofChars?, unsigned?_toDigits]
  · simp only [negative, decide_false, minus, Bool.false_eq_true, if_false, List.nil_append]
    have digits : ∀ c ∈ Nat.toDigits 10 n.natAbs, isDigit c = true :=
      fun c hc => isDigit_of_mem_toDigits hc
    have read := unsigned?_toDigits false n.natAbs
    unfold ofChars?
    -- Digits begin with no sign.
    split
    next same => simp [same, isDigit_iff] at digits
    next same => simp [same, isDigit_iff] at digits
    next => rw [read, Option.some_or]

end RecordFilter.Binary64
