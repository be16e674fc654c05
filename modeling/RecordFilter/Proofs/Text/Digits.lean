import RecordFilter.Text.Blank
import RecordFilter.Text.Digits

/-! Digits of numbers are read back as the numbers, whatever zeros stand in front of them, and hold
no blanks.
-/

namespace RecordFilter.Text

/-- Every digit of a number is that of a number below the base. -/
theorem exists_digitChar_of_mem_toDigits {base n : Nat} {c : Char} (hb : 1 < base)
    (hc : c ∈ Nat.toDigits base n)
    : ∃ d, d < base ∧ c = Nat.digitChar d := by
  induction n using Nat.strongRecOn with
  | ind n ih =>
      rw [Nat.toDigits_eq_if hb] at hc
      split at hc
      next small => exact ⟨n, small, List.mem_singleton.mp hc⟩
      next large =>
        -- The last digit is that of the remainder, the others are those of the quotient.
        rw [List.mem_append, List.mem_singleton] at hc
        rcases hc with hc | rfl
        · exact ih (n / base) (Nat.div_lt_self (by omega) hb) hc
        · exact ⟨n % base, Nat.mod_lt n (by omega), rfl⟩

/-- A number is the value of its digits in any base, by induction on the number. -/
theorem foldl_toDigits {base : Nat} {value : Char → Nat} (hb : 1 < base)
    (reads : ∀ d, d < base → value (Nat.digitChar d) = d) (n : Nat)
    : (Nat.toDigits base n).foldl (fun k c => base * k + value c) 0 = n := by
  induction n using Nat.strongRecOn with
  | ind n ih =>
      rw [Nat.toDigits_eq_if hb]
      split
      next small => simp [reads n small]
      next large =>
        rw [List.foldl_append, ih (n / base) (Nat.div_lt_self (by omega) hb), List.foldl_cons,
          List.foldl_nil, reads _ (Nat.mod_lt n (by omega)), Nat.div_add_mod]

/-- Each zero that follows a number multiplies it by the base, by induction on the zeros. -/
theorem foldl_zeros {base : Nat} {value : Char → Nat} (zero : value '0' = 0) (count n : Nat)
    : (List.replicate count '0').foldl (fun k c => base * k + value c) n
      = n * Nat.pow base count := by
  induction count generalizing n with
  | zero => exact (Nat.mul_one n).symm
  | succ count ih =>
      rw [List.replicate_succ, List.foldl_cons, zero, ih, Nat.add_zero, Nat.mul_comm base n,
        Nat.mul_assoc, Nat.mul_comm base]
      rfl

theorem digit?_digitChar {d : Nat} (h : d < 10) : digit? (Nat.digitChar d) = some d := by
  revert d
  decide

theorem hexDigit?_digitChar {d : Nat} (h : d < 16) : hexDigit? (Nat.digitChar d) = some d := by
  revert d
  decide

/-- Decimal digits lie in one range of code points. -/
theorem isDigit_iff {c : Char} : isDigit c = true ↔ 48 ≤ c.toNat ∧ c.toNat ≤ 57 := by
  have low : '0' ≤ c ↔ 48 ≤ c.toNat := Char.le_def.trans UInt32.le_iff_toNat_le
  have high : c ≤ '9' ↔ c.toNat ≤ 57 := Char.le_def.trans UInt32.le_iff_toNat_le
  simp [isDigit, digit?, low, high]

/-- Blanks lie beside all letters and digits of ASCII. -/
theorem isBlank_eq_false {c : Char} (low : 33 ≤ c.toNat) (high : c.toNat ≤ 126)
    : isBlank c = false := by
  simp [isBlank, blanks, CharSet.has]
  omega

theorem isBlank_of_isDigit {c : Char} (h : isDigit c = true) : isBlank c = false := by
  rw [isDigit_iff] at h
  exact isBlank_eq_false (by omega) (by omega)

section Padded

variable {width n : Nat} {c : Char}

theorem isDigit_of_mem_toDigits (hc : c ∈ Nat.toDigits 10 n) : isDigit c = true := by
  obtain ⟨d, hd, rfl⟩ := exists_digitChar_of_mem_toDigits (by decide) hc
  rw [isDigit, digit?_digitChar hd]
  rfl

theorem isDigit_of_mem_padded (hc : c ∈ padded width n) : isDigit c = true := by
  rw [padded, List.mem_append] at hc
  rcases hc with hc | hc
  · rw [(List.mem_replicate.mp hc).2]
    rfl
  · exact isDigit_of_mem_toDigits hc

theorem padded_ne_nil : padded width n ≠ [] := by
  simp [padded]

theorem isDigit_of_mem_head?_padded_append {rest : List Char}
    : ∀ c ∈ (padded width n ++ rest).head?, isDigit c = true := by
  intro c hc
  obtain ⟨first, cs, same⟩ := List.exists_cons_of_ne_nil (@padded_ne_nil width n)
  rw [same, List.cons_append, List.head?_cons, Option.mem_some_iff] at hc
  exact @isDigit_of_mem_padded width n c (same ▸ hc ▸ List.mem_cons_self)

theorem digitsValue_padded : digitsValue (padded width n) = n := by
  have reads (d : Nat) (hd : d < 10) : (digit? (Nat.digitChar d)).getD 0 = d := by
    rw [digit?_digitChar hd, Option.getD_some]
  rw [digitsValue, padded, List.foldl_append, foldl_zeros rfl, Nat.zero_mul,
    foldl_toDigits (by decide) reads]

theorem length_padded : (padded width n).length = max width (Nat.toDigits 10 n).length := by
  rw [padded, List.length_append, List.length_replicate]
  omega

/-- A number below the power of ten fills the width exactly. -/
theorem length_padded_of_lt (hw : 0 < width) (hn : n < Nat.pow 10 width)
    : (padded width n).length = width := by
  rw [length_padded]
  exact Nat.max_eq_left ((Nat.length_toDigits_le_iff (by decide) hw).mpr hn)

theorem toDigits_eq_padded : Nat.toDigits 10 n = padded 0 n := by
  rw [padded, Nat.zero_sub, List.replicate_zero, List.nil_append]

end Padded

theorem digitsValue_append (left right : List Char)
    : digitsValue (left ++ right)
      = right.foldl (fun n c => 10 * n + (digit? c).getD 0) (digitsValue left) := by
  rw [digitsValue, List.foldl_append, digitsValue]

theorem digitsValue_toDigits (n : Nat) : digitsValue (Nat.toDigits 10 n) = n := by
  rw [toDigits_eq_padded, digitsValue_padded]

/-- Only zero starts with a zero, by induction on the number. -/
theorem head?_toDigits_ne_zero {n : Nat} (positive : 0 < n)
    : (Nat.toDigits 10 n).head? ≠ some '0' := by
  induction n using Nat.strongRecOn with
  | ind n ih =>
      rw [Nat.toDigits_eq_if (by decide)]
      split
      next small =>
        have digits : ∀ d < 10, 0 < d → Nat.digitChar d ≠ '0' := by decide
        simpa using digits n small positive
      next large =>
        have first := ih (n / 10) (Nat.div_lt_self (by omega) (by decide)) (by omega)
        rw [List.head?_append]
        cases digits : (Nat.toDigits 10 (n / 10)).head? with
        | none => simp [Nat.toDigits_ne_nil] at digits
        | some c =>
            rw [digits] at first
            exact first

/-- Digits are read as the number that they write. -/
theorem natural?_eq_some {cs : List Char} (h : cs ≠ []) (digits : ∀ c ∈ cs, isDigit c = true)
    : natural? cs = some (digitsValue cs) := by
  have all : cs.all isDigit = true := List.all_eq_true.mpr digits
  simp [natural?, h, all]

/-- Only digits are read as a number. -/
theorem natural?_eq_some_iff {cs : List Char} {n : Nat}
    : natural? cs = some n
      ↔ cs ≠ [] ∧ (∀ c ∈ cs, isDigit c = true) ∧ digitsValue cs = n := by
  simp [natural?, and_assoc]

theorem natural?_toDigits (n : Nat) : natural? (Nat.toDigits 10 n) = some n := by
  rw [toDigits_eq_padded, natural?_eq_some padded_ne_nil fun c hc => isDigit_of_mem_padded hc,
    digitsValue_padded]

/-- Digits are told from what follows them when that begins with no digit. -/
theorem span_digits_append {cs rest : List Char} (digits : ∀ c ∈ cs, isDigit c = true)
    (stop : ∀ c ∈ rest.head?, isDigit c = false)
    : (cs ++ rest).takeWhile isDigit = cs ∧ (cs ++ rest).dropWhile isDigit = rest := by
  rw [List.takeWhile_append_of_pos digits, List.dropWhile_append_of_pos digits]
  cases rest with
  | nil => simp
  | cons c rest => simp [stop c rfl]

theorem trimStart_eq_self {cs : List Char} (first : ∀ c ∈ cs.head?, isBlank c = false)
    : trimStart cs = cs := by
  cases cs with
  | nil => rfl
  | cons c rest => rw [trimStart, List.dropWhile_cons_of_neg (by simp [first c rfl])]

/-- Characters without a blank at either end stay as they are. -/
theorem trimChars_eq_self {cs : List Char} (first : ∀ c ∈ cs.head?, isBlank c = false)
    (last : ∀ c ∈ cs.getLast?, isBlank c = false)
    : trimChars cs = cs := by
  -- Blanks at the end stand at the start of the reversal.
  rw [trimChars, trimStart_eq_self first, trimStart_eq_self (by rwa [List.head?_reverse]),
    List.reverse_reverse]

theorem trimChars_eq_self_of_forall {cs : List Char} (h : ∀ c ∈ cs, isBlank c = false)
    : trimChars cs = cs :=
  trimChars_eq_self (fun c hc => h c (List.mem_of_mem_head? hc))
    (fun c hc => h c (List.mem_of_mem_getLast? hc))

end RecordFilter.Text
