import RecordFilter.Proofs.Text.Digits
import RecordFilter.Uuid

/-! Identifiers are read back from their text, and no text of an identifier has blanks around it. -/

namespace RecordFilter.Uuid

open RecordFilter.Text

/-- The digits of an identifier without the hyphens. -/
def digits (u : Uuid) : List Char :=
  List.replicate (32 - (Nat.toDigits 16 u.value).length) '0' ++ Nat.toDigits 16 u.value

section Digits

variable (u : Uuid)

theorem length_digits : u.digits.length = 32 := by
  have bound : (Nat.toDigits 16 u.value).length ≤ 32 :=
    (Nat.length_toDigits_le_iff (by decide) (by decide)).mpr u.value_lt
  rw [digits, List.length_append, List.length_replicate]
  omega

theorem hexDigit?_isSome_of_mem_digits {c : Char} (hc : c ∈ u.digits)
    : (hexDigit? c).isSome = true := by
  rw [digits, List.mem_append] at hc
  rcases hc with hc | hc
  · rw [(List.mem_replicate.mp hc).2]
    rfl
  · obtain ⟨d, hd, rfl⟩ := exists_digitChar_of_mem_toDigits (by decide) hc
    rw [hexDigit?_digitChar hd]
    rfl

/-- The text begins with digits. -/
theorem hexDigit?_isSome_of_mem_take {c : Char} (hc : c ∈ u.chars.take 5)
    : (hexDigit? c).isSome = true := by
  have first : u.chars.take 5 = u.digits.take 5 := by
    have length : (u.digits.take 8).length = 8 := by
      rw [List.length_take, length_digits]
      rfl
    rw [chars, ← digits]
    simp only [List.append_assoc]
    rw [List.take_append_of_le_length (by omega), List.take_take]
    rfl
  exact u.hexDigit?_isSome_of_mem_digits (List.mem_of_mem_take (first ▸ hc))

theorem ofDigits?_digits : ofDigits? u.digits = some u := by
  have reads (d : Nat) (hd : d < 16) : (hexDigit? (Nat.digitChar d)).getD 0 = d := by
    rw [hexDigit?_digitChar hd, Option.getD_some]
  have value : u.digits.foldl (fun n c => 16 * n + (hexDigit? c).getD 0) 0 = u.value := by
    rw [digits, List.foldl_append, foldl_zeros rfl, Nat.zero_mul, foldl_toDigits (by decide) reads]
  have all : (u.digits.all fun c => (hexDigit? c).isSome) = true :=
    List.all_eq_true.mpr fun _ hc => u.hexDigit?_isSome_of_mem_digits hc
  simp only [ofDigits?, length_digits, all, decide_true, Bool.and_self, if_true, value, u.value_lt,
    dite_true]

end Digits

/-- Groups of the five sizes are read as the digits that they hold. -/
theorem ofGroups?_join {a b c d e : List Char} (ha : a.length = 8) (hb : b.length = 4)
    (hc : c.length = 4) (hd : d.length = 4) (he : e.length = 12)
    : ofGroups? (a ++ '-' :: (b ++ '-' :: (c ++ '-' :: (d ++ '-' :: e))))
      = ofDigits? (a ++ b ++ c ++ d ++ e) := by
  simp [ofGroups?, List.drop_append, List.drop_eq_nil_of_le, List.getElem?_append, ha, hb, hc,
    hd, he]

/-- The groups are cut out of the digits one after the other. -/
theorem groups_append (u : Uuid)
    : u.digits.take 8 ++ (u.digits.drop 8).take 4 ++ (u.digits.drop 12).take 4
        ++ (u.digits.drop 16).take 4 ++ u.digits.drop 20
      = u.digits := by
  have cut (start size : Nat)
      : u.digits.take start ++ (u.digits.drop start).take size = u.digits.take (start + size) := by
    rw [List.take_add]
  rw [cut, cut, cut, List.take_append_drop]

/-- The text of an identifier is read as the identifier. -/
theorem ofChars?_chars (u : Uuid) : ofChars? u.chars = some u := by
  have length := u.length_digits
  have grouped : ofGroups? u.chars = some u := by
    have parts := @ofGroups?_join (u.digits.take 8) ((u.digits.drop 8).take 4)
      ((u.digits.drop 12).take 4) ((u.digits.drop 16).take 4) (u.digits.drop 20) (by simp [length])
      (by simp [length]) (by simp [length]) (by simp [length]) (by simp [length])
    rw [groups_append, ofDigits?_digits] at parts
    rw [← parts, chars, ← digits]
    simp only [List.append_assoc, List.cons_append]
  -- Digits alone are tried first, but the hyphens make the text too long.
  have bare : ofDigits? u.chars = none := by
    have size : u.chars.length = 36 := by
      rw [chars, ← digits]
      simp [length]
    simp [ofDigits?, size]
  rw [ofChars?, bare, grouped, Option.none_or, Option.some_or]

section Blanks

variable {cs : List Char} {u : Uuid}

theorem isBlank_of_hexDigit? {c : Char} (h : (hexDigit? c).isSome = true) : isBlank c = false := by
  have range : 48 ≤ c.toNat ∧ c.toNat ≤ 102 := by
    have le (a b : Char) : a ≤ b ↔ a.toNat ≤ b.toNat := Char.le_def.trans UInt32.le_iff_toNat_le
    unfold hexDigit? at h
    split at h
    next digit =>
      simp [le] at digit
      omega
    next =>
      split at h
      next letter =>
        simp [le] at letter
        omega
      next =>
        split at h
        next letter =>
          simp [le] at letter
          omega
        next => cases h
  exact isBlank_eq_false (by omega) (by omega)

theorem hexDigit?_isSome_of_ofDigits? (read : ofDigits? cs = some u)
    : ∀ c ∈ cs, (hexDigit? c).isSome = true := by
  unfold ofDigits? at read
  split at read
  next accepted =>
    rw [Bool.and_eq_true, List.all_eq_true] at accepted
    exact accepted.2
  next => cases read

theorem isBlank_of_ofDigits? (read : ofDigits? cs = some u) : ∀ c ∈ cs, isBlank c = false :=
  fun c hc => isBlank_of_hexDigit? (hexDigit?_isSome_of_ofDigits? read c hc)

theorem length_of_ofGroups? (read : ofGroups? cs = some u) : cs.length = 36 := by
  unfold ofGroups? at read
  split at read
  next accepted =>
    rw [Bool.and_eq_true, decide_eq_true_eq] at accepted
    exact accepted.1
  next => cases read

/-- Groups begin and end with digits. -/
theorem hexDigit?_isSome_of_ofGroups? (read : ofGroups? cs = some u)
    : (∀ c ∈ cs.head?, (hexDigit? c).isSome = true)
      ∧ ∀ c ∈ cs.getLast?, (hexDigit? c).isSome = true := by
  have length := length_of_ofGroups? read
  unfold ofGroups? at read
  split at read
  next =>
    have digits := hexDigit?_isSome_of_ofDigits? read
    simp only [List.forall_mem_append] at digits
    obtain ⟨⟨⟨⟨first, _⟩, _⟩, _⟩, last⟩ := digits
    constructor
    · intro c hc
      refine first c (List.mem_of_mem_head? ?_)
      rwa [List.head?_take, if_neg (by decide)]
    · intro c hc
      refine last c (List.mem_of_mem_getLast? ?_)
      rwa [List.getLast?_drop, if_neg (by omega)]
  next => cases read

theorem isBlank_of_ofGroups? (read : ofGroups? cs = some u)
    : (∀ c ∈ cs.head?, isBlank c = false) ∧ ∀ c ∈ cs.getLast?, isBlank c = false := by
  obtain ⟨first, last⟩ := hexDigit?_isSome_of_ofGroups? read
  exact ⟨fun c hc => isBlank_of_hexDigit? (first c hc),
    fun c hc => isBlank_of_hexDigit? (last c hc)⟩

theorem isBlank_of_lowerAscii {c : Char} (h : lowerAscii c = 'u') : isBlank c = false := by
  unfold lowerAscii at h
  split at h
  next capital =>
    have low : 'A'.toNat ≤ c.toNat := (Char.le_def.trans UInt32.le_iff_toNat_le).mp (by simp_all)
    have high : c.toNat ≤ 'Z'.toNat := (Char.le_def.trans UInt32.le_iff_toNat_le).mp (by simp_all)
    exact isBlank_eq_false (Nat.le_trans (by decide) low) (Nat.le_trans high (by decide))
  next =>
    rw [h]
    rfl

/-- A text that is read as an identifier ends in a digit or a brace. -/
theorem getLast?_of_ofChars? (read : ofChars? cs = some u)
    : ∀ c ∈ cs.getLast?, (hexDigit? c).isSome = true ∨ c = '}' := by
  intro c hc
  rw [ofChars?, Option.or_eq_some_iff, Option.or_eq_some_iff] at read
  rcases read with bare | ⟨_, grouped | ⟨_, framed⟩⟩
  · exact .inl (hexDigit?_isSome_of_ofDigits? bare c (List.mem_of_mem_getLast? hc))
  · exact .inl ((hexDigit?_isSome_of_ofGroups? grouped).2 c hc)
  · split at framed
    next braces =>
      simp only [Bool.and_eq_true, beq_iff_eq] at braces
      rw [braces.2, Option.mem_some_iff] at hc
      exact .inr hc.symm
    next =>
      split at framed
      next =>
        have length := length_of_ofGroups? framed
        rw [List.length_drop] at length
        refine .inl ((hexDigit?_isSome_of_ofGroups? framed).2 c ?_)
        rwa [List.getLast?_drop, if_neg (by omega)]
      next => cases framed

/-- A text that is read as an identifier has no blanks around it. -/
theorem trimChars_of_ofChars? (read : ofChars? cs = some u) : trimChars cs = cs := by
  rw [ofChars?, Option.or_eq_some_iff, Option.or_eq_some_iff] at read
  -- Digits alone, groups with hyphens, and groups in braces or after the name of the scheme.
  rcases read with bare | ⟨_, grouped | ⟨_, framed⟩⟩
  · exact trimChars_eq_self_of_forall (isBlank_of_ofDigits? bare)
  · exact trimChars_eq_self (isBlank_of_ofGroups? grouped).1 (isBlank_of_ofGroups? grouped).2
  · split at framed
    next braces =>
      simp only [Bool.and_eq_true, decide_eq_true_eq, beq_iff_eq] at braces
      refine trimChars_eq_self ?_ ?_
      · rw [braces.1.2]
        simp
        decide
      · rw [braces.2]
        simp
        decide
    next =>
      split at framed
      next named =>
        refine trimChars_eq_self (fun c hc => isBlank_of_lowerAscii ?_) ?_
        · have head := congrArg List.head? (eq_of_beq named)
          rw [List.head?_map, List.head?_take, if_neg (by decide), Option.mem_def.mp hc] at head
          exact Option.some.inj head
        · have length := length_of_ofGroups? framed
          have last := (isBlank_of_ofGroups? framed).2
          rw [List.length_drop] at length
          rwa [List.getLast?_drop, if_neg (by omega)] at last
      next => cases framed

end Blanks

end RecordFilter.Uuid
