import Mathlib.Data.List.Infix
import RecordFilter.Text.Lowercase

/-! Lowercase of a text within another one. Only a capital sigma looks at what stands around it, so
that a text keeps its lowercase form in every surrounding exactly when each sigma in it finds within
the text what decides its form.
-/

namespace RecordFilter.Text

section Nearest

variable {cs rest : List Char}

/-- The nearest character that is not passed over. -/
def nearest? (cs : List Char) : Option Char :=
  (cs.dropWhile caseIgnorables.has).head?

theorem meetsCased_eq_any (cs : List Char) : meetsCased cs = (nearest? cs).any casedLetters.has := by
  unfold meetsCased nearest?
  split
  next same => rw [same]; rfl
  next same => rw [same]; rfl

theorem nearest?_cons (c : Char) (cs : List Char)
    : nearest? (c :: cs) = if caseIgnorables.has c = true then nearest? cs else some c := by
  unfold nearest?
  rw [List.dropWhile_cons]
  split <;> rfl

/-- What comes later counts only if all characters before it are passed over. -/
theorem nearest?_append (cs rest : List Char)
    : nearest? (cs ++ rest) = (nearest? cs).or (nearest? rest) := by
  induction cs with
  | nil => rfl
  | cons c cs ih =>
      rw [List.cons_append, nearest?_cons, nearest?_cons, ih]
      split <;> rfl

theorem nearest?_append_of_isSome (found : (nearest? cs).isSome = true) (rest : List Char)
    : nearest? (cs ++ rest) = nearest? cs := by
  obtain ⟨c, same⟩ := Option.isSome_iff_exists.mp found
  rw [nearest?_append, same, Option.some_or]

theorem meetsCased_append_of_isSome (found : (nearest? cs).isSome = true) (rest : List Char)
    : meetsCased (cs ++ rest) = meetsCased cs := by
  rw [meetsCased_eq_any, nearest?_append_of_isSome found, meetsCased_eq_any]

theorem meetsCased_append_of_eq_none (passed : nearest? cs = none) (rest : List Char)
    : meetsCased (cs ++ rest) = meetsCased rest := by
  rw [meetsCased_eq_any, nearest?_append, passed, Option.none_or, meetsCased_eq_any]

theorem meetsCased_of_eq_none (passed : nearest? cs = none) : meetsCased cs = false := by
  rw [meetsCased_eq_any, passed]
  rfl

theorem not_ignorable_sigma : caseIgnorables.has '\u03a3' = false := by
  decide +kernel

theorem nearest?_sigma_cons (cs : List Char) : nearest? ('\u03a3' :: cs) = some '\u03a3' := by
  rw [nearest?_cons, not_ignorable_sigma, if_neg Bool.false_ne_true]

/-- No sigma is passed over. -/
theorem not_mem_sigma_of_eq_none (passed : nearest? cs = none) : '\u03a3' ∉ cs := by
  intro member
  obtain ⟨before, after, same⟩ := List.append_of_mem member
  rw [same, nearest?_append, nearest?_sigma_cons] at passed
  cases h : nearest? before <;> simp [h] at passed

end Nearest

section AsciiCase

/-- Two characters agree in all that counts for the lowercase form of a text. -/
structure AlikeInLowercase (c other : Char) : Prop where
  lower : lowerChar c = lowerChar other
  sigma : c = '\u03a3' ↔ other = '\u03a3'
  ignorable : caseIgnorables.has c = caseIgnorables.has other
  cased : casedLetters.has c = casedLetters.has other

variable {f : Char → Char}

theorem nearest?_map (alike : ∀ c, AlikeInLowercase (f c) c) (cs : List Char)
    : nearest? (cs.map f) = (nearest? cs).map f := by
  induction cs with
  | nil => rfl
  | cons c rest ih =>
      rw [List.map_cons, nearest?_cons, nearest?_cons, (alike c).ignorable, ih]
      split <;> rfl

theorem meetsCased_map (alike : ∀ c, AlikeInLowercase (f c) c) (cs : List Char)
    : meetsCased (cs.map f) = meetsCased cs := by
  rw [meetsCased_eq_any, meetsCased_eq_any, nearest?_map alike]
  cases nearest? cs with
  | none => rfl
  | some c => exact (alike c).cased

/-- Characters that are replaced by others alike keep their lowercase form, by list induction: what
stands around a sigma decides as before.
-/
theorem lowerAfter_map (alike : ∀ c, AlikeInLowercase (f c) c) (before cs : List Char)
    : lowerAfter (before.map f) (cs.map f) = lowerAfter before cs := by
  induction cs generalizing before with
  | nil => rfl
  | cons c rest ih =>
      rw [List.map_cons, lowerAfter, lowerAfter, lowerSigma, lowerSigma, meetsCased_map alike,
        meetsCased_map alike, (alike c).lower, ← List.map_cons, ih]
      simp only [(alike c).sigma]

/-- No letter from A to Z in either case is passed over. -/
theorem not_ignorable_letter {c : Char}
    (letter : (0x41 ≤ c.toNat ∧ c.toNat ≤ 0x5a) ∨ (0x61 ≤ c.toNat ∧ c.toNat ≤ 0x7a))
    : caseIgnorables.has c = false := by
  have apart
      : ∀ range ∈ caseIgnorables.ranges,
          range.2 < 0x41 ∨ (0x5a < range.1 ∧ range.2 < 0x61) ∨ 0x7a < range.1 := by
    decide +kernel
  refine List.any_eq_false.mpr fun range member => ?_
  have outside := apart range member
  simp only [Bool.and_eq_true, decide_eq_true_eq]
  omega

theorem lowerAscii_capital
    : ∀ i : Fin 26,
        let c := Char.ofNat (0x41 + i)
        lowerChar (lowerAscii c) = lowerChar c
        ∧ (lowerAscii c).toNat = c.toNat + 0x20
        ∧ casedLetters.has (lowerAscii c) = casedLetters.has c := by
  decide +kernel

theorem lowerAscii_alike (c : Char) : AlikeInLowercase (lowerAscii c) c := by
  by_cases capital : 'A' ≤ c ∧ c ≤ 'Z'
  · have low : 0x41 ≤ c.toNat := capital.1
    have high : c.toNat ≤ 0x5a := capital.2
    have facts := lowerAscii_capital ⟨c.toNat - 0x41, by omega⟩
    simp only [Nat.add_sub_cancel' low, Char.ofNat_toNat] at facts
    obtain ⟨lower, code, cased⟩ := facts
    refine ⟨lower, ?_, ?_, cased⟩
    · have far : '\u03a3'.toNat = 0x3a3 := rfl
      constructor
      · intro sigma
        rw [sigma, far] at code
        omega
      · intro sigma
        rw [sigma, far] at high
        omega
    · rw [not_ignorable_letter (.inr (by omega)), not_ignorable_letter (.inl ⟨low, high⟩)]
  · have same : lowerAscii c = c := by
      rw [lowerAscii, if_neg (by simpa using capital)]
    rw [same]
    exact ⟨rfl, Iff.rfl, rfl, rfl⟩

/-- Texts that agree but for the case of the letters A to Z have one lowercase form. -/
theorem lowercase_congr_of_sameIgnoringAsciiCase {left right : String}
    (same : sameIgnoringAsciiCase left right = true)
    : lowercase left = lowercase right := by
  have kept (text : String)
      : lowerAfter [] (text.toList.map lowerAscii) = lowerAfter [] text.toList :=
    lowerAfter_map lowerAscii_alike [] text.toList
  rw [lowercase, lowercase, ← kept left, ← kept right, eq_of_beq same]

end AsciiCase

section Surrounded

/-- Lowercase of characters with others in front of them, in reverse, and others behind them. -/
def lowerBetween (before after : List Char) : List Char → List Char
  | [] => []
  | c :: rest =>
      (if c = '\u03a3' then [lowerSigma before (rest ++ after)] else lowerChar c)
      ++ lowerBetween (c :: before) after rest

/-- A text is lowercased part by part, each with the others around it. -/
theorem lowerAfter_append (before cs after : List Char)
    : lowerAfter before (cs ++ after)
      = lowerBetween before after cs ++ lowerAfter (cs.reverse ++ before) after := by
  induction cs generalizing before with
  | nil => rfl
  | cons c rest ih =>
      rw [List.cons_append, lowerAfter, ih, lowerBetween, List.append_assoc, List.reverse_cons,
        List.append_assoc]
      rfl

theorem lowerAfter_eq_lowerBetween (before cs : List Char)
    : lowerAfter before cs = lowerBetween before [] cs := by
  have whole := lowerAfter_append before cs []
  rwa [List.append_nil, lowerAfter, List.append_nil] at whole

theorem lowerBetween_append (before after left right : List Char)
    : lowerBetween before after (left ++ right)
      = lowerBetween before (right ++ after) left
        ++ lowerBetween (left.reverse ++ before) after right := by
  induction left generalizing before with
  | nil => rfl
  | cons c rest ih =>
      rw [List.cons_append, lowerBetween, ih, lowerBetween, List.append_assoc, List.append_assoc,
        List.reverse_cons, List.append_assoc]
      rfl

/-- Characters among which there is no sigma do not look around. -/
theorem lowerBetween_of_not_mem {cs : List Char} (free : '\u03a3' ∉ cs) (before after : List Char)
    : lowerBetween before after cs = cs.flatMap lowerChar := by
  induction cs generalizing before with
  | nil => rfl
  | cons c rest ih =>
      rw [List.mem_cons, not_or] at free
      rw [lowerBetween, if_neg (Ne.symm free.1), ih free.2, List.flatMap_cons]

/-- What stands far in front does not count where something nearer decides. -/
theorem lowerBetween_append_before {before : List Char}
    (found : (nearest? before).isSome = true) (far after cs : List Char)
    : lowerBetween (before ++ far) after cs = lowerBetween before after cs := by
  induction cs generalizing before with
  | nil => rfl
  | cons c rest ih =>
      have next : (nearest? (c :: before)).isSome = true := by
        rw [nearest?_cons]
        split
        · exact found
        · rfl
      rw [lowerBetween, lowerBetween, lowerSigma, meetsCased_append_of_isSome found, lowerSigma,
        ← List.cons_append, ih next]

/-- What stands far behind does not count where something nearer decides. -/
theorem lowerBetween_append_after {after : List Char}
    (found : (nearest? after).isSome = true) (before far cs : List Char)
    : lowerBetween before (after ++ far) cs = lowerBetween before after cs := by
  induction cs generalizing before with
  | nil => rfl
  | cons c rest ih =>
      have reached : (nearest? (rest ++ after)).isSome = true := by
        obtain ⟨c, same⟩ := Option.isSome_iff_exists.mp found
        rw [nearest?_append, same]
        cases nearest? rest <;> rfl
      rw [lowerBetween, lowerBetween, lowerSigma, ← List.append_assoc,
        meetsCased_append_of_isSome reached, lowerSigma, ih]

end Surrounded

section Settled

/-- What decides the form of a sigma stands around it: a letter comes after it, or something else
than a letter before it, or anything that counts on both sides.
-/
def SigmaSettled (before after : List Char) : Prop :=
  meetsCased after = true
  ∨ (∃ c, nearest? before = some c ∧ casedLetters.has c = false)
  ∨ (nearest? before).isSome = true ∧ (nearest? after).isSome = true

/-- Each capital sigma of a text finds within the text what decides its form. -/
def HasSettledSigmas (text : String) : Prop :=
  ∀ before after, text.toList = before ++ '\u03a3' :: after → SigmaSettled before.reverse after

/-- A settled sigma has one form whatever comes in front and behind. -/
theorem lowerSigma_append_of_settled {before after : List Char} (h : SigmaSettled before after)
    (front behind : List Char)
    : lowerSigma (before ++ front) (after ++ behind) = lowerSigma before after := by
  unfold lowerSigma
  rcases h with letter | ⟨c, found, other⟩ | ⟨foundBefore, foundAfter⟩
  · have found : (nearest? after).isSome = true := by
      rw [meetsCased_eq_any] at letter
      cases same : nearest? after with
      | none => simp [same] at letter
      | some c => rfl
    rw [meetsCased_append_of_isSome found, letter]
    simp
  · have found' : (nearest? before).isSome = true := by rw [found]; rfl
    have none : meetsCased before = false := by rw [meetsCased_eq_any, found]; exact other
    rw [meetsCased_append_of_isSome found', none]
    simp
  · rw [meetsCased_append_of_isSome foundBefore, meetsCased_append_of_isSome foundAfter]

/-- Characters with settled sigmas have one lowercase form whatever stands around them, by list
induction.
-/
theorem lowerBetween_of_settled {before cs : List Char}
    (settled
      : ∀ left right, cs = left ++ '\u03a3' :: right → SigmaSettled (left.reverse ++ before) right)
    (front behind : List Char)
    : lowerBetween (before ++ front) behind cs = lowerBetween before [] cs := by
  induction cs generalizing before with
  | nil => rfl
  | cons c rest ih =>
      have next := @ih (c :: before) fun left right same => by
        have here := settled (c :: left) right (by rw [same]; rfl)
        rwa [List.reverse_cons, List.append_assoc] at here
      rw [lowerBetween, lowerBetween, ← List.cons_append, next]
      by_cases sigma : c = '\u03a3'
      · have here : SigmaSettled before rest := settled [] rest (by rw [sigma]; rfl)
        rw [if_pos sigma, if_pos sigma, List.append_nil,
          lowerSigma_append_of_settled here front behind]
      · rw [if_neg sigma, if_neg sigma]

/-- In a text that holds another one with settled sigmas the lowercase form of that is found too. -/
theorem lowercase_infix_of_settled {pattern text : String} (settled : HasSettledSigmas pattern)
    (holds : pattern.toList <:+: text.toList)
    : (lowercase pattern).toList <:+: (lowercase text).toList := by
  obtain ⟨front, behind, same⟩ := holds
  have kept := @lowerBetween_of_settled [] pattern.toList (fun left right same => by
    rw [List.append_nil]
    exact settled left right same) front.reverse behind
  rw [lowercase, lowercase, String.toList_ofList, String.toList_ofList, ← same, List.append_assoc,
    lowerAfter_append, lowerAfter_append, lowerAfter_eq_lowerBetween [] pattern.toList,
    List.append_nil, ← kept, List.nil_append, ← List.append_assoc]
  exact List.infix_append _ _ _

/-- Around a sigma that is not settled nothing counts on one side. In front of it that is so for a
sigma that ends no word, and behind it for one that does.
-/
theorem not_settled_cases {before after : List Char} (h : ¬SigmaSettled before after)
    : nearest? before = none ∧ meetsCased after = false
      ∨ meetsCased before = true ∧ nearest? after = none := by
  rw [SigmaSettled, not_or, not_or, not_and, Bool.not_eq_true, Option.isSome_iff_ne_none,
    Option.isSome_iff_ne_none, not_not] at h
  obtain ⟨noLetter, noOther, oneSide⟩ := h
  cases found : nearest? before with
  | none => exact .inl ⟨rfl, noLetter⟩
  | some c =>
      refine .inr ⟨?_, oneSide (by simp [found])⟩
      rw [meetsCased_eq_any, found, Option.any_some]
      by_contra other
      exact noOther ⟨c, found, Bool.eq_false_iff.mpr other⟩

/-- The lowercase form of characters with a sigma among them. -/
theorem lowerBetween_sigma (before after left right : List Char)
    : lowerBetween before after (left ++ '\u03a3' :: right)
      = lowerBetween before ('\u03a3' :: right ++ after) left
        ++ lowerSigma (left.reverse ++ before) (right ++ after)
          :: lowerBetween ('\u03a3' :: left.reverse ++ before) after right := by
  rw [lowerBetween_append, lowerBetween, if_pos rfl]
  rfl

theorem lowerChar_a : lowerChar 'a' = ['a'] := by
  decide

theorem not_infix_of_count_lt {c : Char} {pattern cs : List Char}
    (fewer : cs.count c < pattern.count c)
    : ¬pattern <:+: cs := by
  intro holds
  have := holds.sublist.count_le c
  omega

/-- A sigma with nothing in front of it that counts ends a word once a letter stands in front. -/
theorem not_infix_lowerAfter_of_letter_before {left right : List Char}
    (alone : nearest? left.reverse = none) (free : meetsCased right = false)
    : ¬lowerAfter [] (left ++ '\u03a3' :: right)
        <:+: lowerAfter [] ('a' :: (left ++ '\u03a3' :: right)) := by
  have noSigma : '\u03a3' ∉ left := fun member =>
    not_mem_sigma_of_eq_none alone (List.mem_reverse.mpr member)
  have letter : meetsCased (left.reverse ++ ['a']) = true := by
    rw [meetsCased_append_of_eq_none alone]
    decide +kernel
  have within : lowerSigma left.reverse right = '\u03c3' := by
    rw [lowerSigma, meetsCased_of_eq_none alone]
    rfl
  have ending : lowerSigma (left.reverse ++ ['a']) right = '\u03c2' := by
    rw [lowerSigma, letter, free]
    rfl
  have found : (nearest? ('\u03a3' :: left.reverse)).isSome = true := by
    rw [nearest?_sigma_cons]
    rfl
  have inside
      : lowerAfter [] (left ++ '\u03a3' :: right)
        = left.flatMap lowerChar
          ++ '\u03c3' :: lowerBetween ('\u03a3' :: left.reverse) [] right := by
    rw [lowerAfter_eq_lowerBetween, lowerBetween_sigma, lowerBetween_of_not_mem noSigma,
      List.append_nil, List.append_nil, within]
    simp only [List.append_nil]
  have outside
      : lowerAfter [] ('a' :: (left ++ '\u03a3' :: right))
        = 'a' :: (left.flatMap lowerChar
          ++ '\u03c2' :: lowerBetween ('\u03a3' :: left.reverse) [] right) := by
    rw [lowerAfter, if_neg (by decide), lowerChar_a, lowerAfter_eq_lowerBetween,
      lowerBetween_sigma, lowerBetween_of_not_mem noSigma, List.append_nil, ending,
      lowerBetween_append_before found]
    rfl
  refine not_infix_of_count_lt (c := '\u03c3') ?_
  rw [inside, outside]
  simp

/-- A sigma that ends a word with nothing behind it that counts ends none once a letter follows. -/
theorem not_infix_lowerAfter_of_letter_after {left right : List Char}
    (letter : meetsCased left.reverse = true) (alone : nearest? right = none)
    : ¬lowerAfter [] (left ++ '\u03a3' :: right)
        <:+: lowerAfter [] ((left ++ '\u03a3' :: right) ++ ['a']) := by
  have noSigma := not_mem_sigma_of_eq_none alone
  have ending : lowerSigma left.reverse right = '\u03c2' := by
    rw [lowerSigma, letter, meetsCased_of_eq_none alone]
    rfl
  have within : lowerSigma left.reverse (right ++ ['a']) = '\u03c3' := by
    rw [lowerSigma, meetsCased_append_of_eq_none alone]
    have : meetsCased ['a'] = true := by decide +kernel
    simp [this]
  have found : (nearest? ('\u03a3' :: right)).isSome = true := by
    rw [nearest?_sigma_cons]
    rfl
  have inside
      : lowerAfter [] (left ++ '\u03a3' :: right)
        = lowerBetween [] ('\u03a3' :: right) left ++ '\u03c2' :: right.flatMap lowerChar := by
    rw [lowerAfter_eq_lowerBetween, lowerBetween_sigma, lowerBetween_of_not_mem noSigma,
      List.append_nil, List.append_nil, List.append_nil, ending]
  have outside
      : lowerAfter [] ((left ++ '\u03a3' :: right) ++ ['a'])
        = lowerBetween [] ('\u03a3' :: right) left ++ '\u03c3' :: right.flatMap lowerChar
          ++ ['a'] := by
    rw [lowerAfter_append, lowerBetween_sigma, lowerBetween_of_not_mem noSigma, List.append_nil,
      within, lowerBetween_append_after found, lowerAfter, if_neg (by decide), lowerChar_a]
    rfl
  refine not_infix_of_count_lt (c := '\u03c2') ?_
  rw [inside, outside]
  simp

/-- The lowercase form of a text is found in that of every text that holds it exactly when its
sigmas are settled.
-/
theorem lowercase_infix_iff_settled {pattern : String}
    : (∀ text : String,
        pattern.toList <:+: text.toList →
        (lowercase pattern).toList <:+: (lowercase text).toList)
      ↔ HasSettledSigmas pattern := by
  refine ⟨fun always left right same => ?_, fun settled text => lowercase_infix_of_settled settled⟩
  by_contra unsettled
  have surrounded (cs : List Char) (holds : pattern.toList <:+: cs)
      : lowerAfter [] pattern.toList <:+: lowerAfter [] cs := by
    have found := always (String.ofList cs) (by rwa [String.toList_ofList])
    rwa [lowercase, lowercase, String.toList_ofList, String.toList_ofList, String.toList_ofList]
      at found
  rw [same] at surrounded
  rcases not_settled_cases unsettled with ⟨alone, free⟩ | ⟨letter, alone⟩
  · exact not_infix_lowerAfter_of_letter_before alone free
      (surrounded _ (List.infix_cons List.infix_rfl))
  · exact not_infix_lowerAfter_of_letter_after letter alone
      (surrounded _ ⟨[], ['a'], rfl⟩)

end Settled

end RecordFilter.Text
