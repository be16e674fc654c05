import Mathlib.Tactic.IntervalCases
import RecordFilter.Json.Printer
import RecordFilter.Json.Scanner
import RecordFilter.Proofs.Traversal

/-! Strings in JSON texts. The scanner returns every string that the printer writes, whatever its
characters are.
-/

namespace RecordFilter.Json

variable {rest : List Char}

/-- A control is read back from the four digits of its code. -/
theorem scanHex_hexPair {n : Nat} (control : n < 0x20)
    : scanHex ('0' :: '0' :: hexPair n ++ rest) = .ok (n, rest) := by
  interval_cases n <;> rfl

/-- A character is written with an escape that is read back as it, or stands for itself. -/
theorem escapeChar_cases (c : Char)
    : (∃ escape, escapeChar c = '\\' :: escape
        ∧ ∀ rest, scanEscape (escape ++ rest) = .ok (c, rest))
      ∨ (escapeChar c = [c] ∧ c ≠ '"' ∧ c ≠ '\\' ∧ ¬c.toNat < 0x20) := by
  unfold escapeChar
  split
  case h_8 quote backslash _ _ _ _ _ =>
    split
    next control =>
      refine .inl ⟨_, rfl, fun rest => ?_⟩
      have short : ¬0xdc00 ≤ c.toNat := by omega
      have low : ¬0xd800 ≤ c.toNat := by omega
      rw [List.cons_append, scanEscape, List.cons_append, List.cons_append,
        ← List.cons_append, ← List.cons_append, scanHex_hexPair control, ok_bind]
      simp [short, low]
    next plain => exact .inr ⟨rfl, quote, backslash, plain⟩
  all_goals exact .inl ⟨_, rfl, fun _ => rfl⟩

/-- A character takes one step of the scanner, whether it is escaped or not. -/
theorem scanChars_escapeChar_append (c : Char) (fuel : Nat)
    : scanChars (fuel + 1) (escapeChar c ++ rest)
      = scanChars fuel rest >>= fun read => .ok (c :: read.1, read.2) := by
  rcases escapeChar_cases c with ⟨escape, written, read⟩ | ⟨written, quote, backslash, plain⟩
  · rw [written, List.cons_append, scanChars, read, ok_bind]
    rfl
  · rw [written, List.singleton_append, scanChars, if_neg plain]
    · rfl
    · exact quote
    · exact backslash

/-- The characters are read back up to the closing quote, by list induction. -/
theorem scanChars_flatMap_escapeChar {cs : List Char} {fuel : Nat} (enough : cs.length < fuel)
    : scanChars fuel (cs.flatMap escapeChar ++ '"' :: rest) = .ok (cs, rest) := by
  induction cs generalizing fuel with
  | nil =>
      cases fuel with
      | zero => cases enough
      | succ fuel => rfl
  | cons c cs ih =>
      cases fuel with
      | zero => cases enough
      | succ fuel =>
          rw [List.flatMap_cons, List.append_assoc, scanChars_escapeChar_append,
            ih (Nat.lt_of_succ_lt_succ enough), ok_bind]

theorem escapeChar_ne_nil (c : Char) : escapeChar c ≠ [] := by
  rcases escapeChar_cases c with ⟨_, written, _⟩ | ⟨written, _⟩ <;> simp [written]

/-- No string has more characters than its text. -/
theorem length_le_length_flatMap_escapeChar (cs : List Char)
    : cs.length ≤ (cs.flatMap escapeChar).length := by
  induction cs with
  | nil => exact Nat.le_refl _
  | cons c cs ih =>
      have filled := List.length_pos_iff.mpr (escapeChar_ne_nil c)
      rw [List.flatMap_cons, List.length_append, List.length_cons]
      omega

/-- A string is read back from what follows its opening quote. -/
theorem scanString_escaped (text : String)
    : scanString (text.toList.flatMap escapeChar ++ '"' :: rest) = .ok (text, rest) := by
  have short := length_le_length_flatMap_escapeChar text.toList
  have enough
      : text.toList.length < (text.toList.flatMap escapeChar ++ '"' :: rest).length + 1 := by
    rw [List.length_append]
    omega
  rw [scanString, scanChars_flatMap_escapeChar enough, ok_bind]
  simp

/-- The text of a string is an opening quote and what the string is read back from. -/
theorem stringChars_append (text : String)
    : stringChars text ++ rest = '"' :: (text.toList.flatMap escapeChar ++ '"' :: rest) := by
  simp [stringChars]

end RecordFilter.Json
