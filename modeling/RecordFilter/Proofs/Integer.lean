import Mathlib.Algebra.Group.Int.Defs
import RecordFilter.Integer
import RecordFilter.Proofs.Text.Digits

/-! Whole numbers are read back from the digits that they are written with. -/

namespace RecordFilter

open RecordFilter.Text

/-- The sign in front of a number. -/
def Text.minus (negative : Bool) : List Char :=
  if negative then ['-'] else []

namespace Integer

/-- What begins with a digit is read as a number with the sign that stands in front of it. -/
theorem ofChars?_minus_append {cs : List Char} (negative : Bool)
    (first : ∀ c ∈ cs.head?, isDigit c = true)
    : ofChars? (minus negative ++ cs)
      = (natural? cs).map fun n : Nat => if negative then -(n : Int) else n := by
  cases negative with
  | true =>
      simp only [minus, if_true, List.singleton_append, ofChars?]
      cases natural? cs <;> rfl
  | false =>
      simp only [minus, Bool.false_eq_true, if_false, List.nil_append]
      unfold ofChars?
      -- The first two arms are there for signs, and a digit is none.
      split
      next => simp [isDigit_iff] at first
      next => simp [isDigit_iff] at first
      next => cases natural? cs <;> rfl

/-- What holds a character other than digits and signs is no number. -/
theorem int64OfChars?_eq_none {cs : List Char} {c : Char} (member : c ∈ cs)
    (other : isDigit c = false) (unsigned : c ≠ '-' ∧ c ≠ '+')
    : int64OfChars? cs = none := by
  have noNumber {rest : List Char} (within : c ∈ rest) : natural? rest = none := by
    cases read : natural? rest with
    | none => rfl
    | some n =>
        have digits := (natural?_eq_some_iff.mp read).2.1
        simp [digits c within] at other
  unfold int64OfChars? ofChars?
  split
  next rest => rw [noNumber ((List.mem_cons.mp member).resolve_left unsigned.1)]; rfl
  next rest => rw [noNumber ((List.mem_cons.mp member).resolve_left unsigned.2)]; rfl
  next => rw [noNumber member]; rfl

theorem int64?_toInt (n : Int64) : int64? n.toInt = some n := by
  simp only [int64?, n.minValue_le_toInt, n.toInt_le, decide_true, Bool.and_self, if_true,
    Int64.ofInt_toInt]

theorem int64?_eq_some_iff {n : Int} {k : Int64} : int64? n = some k ↔ k.toInt = n := by
  constructor
  · intro h
    unfold int64? at h
    split at h
    next inRange =>
      cases h
      simp only [Bool.and_eq_true, decide_eq_true_eq] at inRange
      exact Int64.toInt_ofInt_of_le inRange.1 (Int.lt_of_le_of_lt inRange.2 (by decide))
    next => cases h
  · intro h
    rw [← h, int64?_toInt]

/-- The 64-bit integers are those from `-2 ^ 63` to below `2 ^ 63`. -/
theorem exists_int64_iff {n : Int} : (∃ k : Int64, k.toInt = n) ↔ -2 ^ 63 ≤ n ∧ n < 2 ^ 63 := by
  constructor
  · rintro ⟨k, rfl⟩
    exact ⟨k.le_toInt, k.toInt_lt⟩
  · rintro ⟨low, high⟩
    exact ⟨Int64.ofInt n, Int64.toInt_ofInt_of_le low high⟩

/-- The 32-bit integers are the 64-bit integers from `-2 ^ 31` to below `2 ^ 31`. -/
theorem exists_int32_iff {n : Int}
    : (∃ i : Int32, i.toInt = n) ↔ (∃ k : Int64, k.toInt = n) ∧ -2 ^ 31 ≤ n ∧ n < 2 ^ 31 := by
  constructor
  · rintro ⟨i, rfl⟩
    exact ⟨⟨i.toInt64, i.toInt_toInt64⟩, i.le_toInt, i.toInt_lt⟩
  · rintro ⟨_, low, high⟩
    exact ⟨Int32.ofInt n, Int32.toInt_ofInt_of_le low high⟩

theorem int32?_eq_some_iff {n : Int} {k : Int32} : int32? n = some k ↔ k.toInt = n := by
  constructor
  · intro h
    unfold int32? at h
    split at h
    next inRange =>
      cases h
      simp only [Bool.and_eq_true, decide_eq_true_eq] at inRange
      exact Int32.toInt_ofInt_of_le inRange.1 (Int.lt_of_le_of_lt inRange.2 (by decide))
    next => cases h
  · intro h
    simp only [← h, int32?, k.minValue_le_toInt, k.toInt_le, decide_true, Bool.and_self, if_true,
      Int32.ofInt_toInt]

/-- A number is written as its digits, after a minus sign if it is negative. -/
theorem toList_toString (n : Int)
    : (toString n).toList = minus (n < 0) ++ Nat.toDigits 10 n.natAbs := by
  rw [Int.toString_eq_repr, Int.repr_eq_if]
  by_cases negative : n < 0
  · have size : (-n).toNat = n.natAbs := by omega
    rw [if_neg (by omega), String.toList_append, Nat.toList_repr, size]
    simp [minus, negative]
  · have size : n.toNat = n.natAbs := by omega
    rw [if_pos (by omega), Nat.toList_repr, size]
    simp [minus, negative]

theorem int64OfChars?_toString (n : Int64) : int64OfChars? (toString n.toInt).toList = some n := by
  have value : (if n.toInt < 0 then -(n.toInt.natAbs : Int) else n.toInt.natAbs) = n.toInt := by
    omega
  rw [int64OfChars?, toList_toString, ofChars?_minus_append _ fun c hc =>
    isDigit_of_mem_toDigits (List.mem_of_mem_head? hc), natural?_toDigits]
  simp only [Option.map_some, Option.bind_some, decide_eq_true_eq, value, int64?_toInt]

end Integer

end RecordFilter
