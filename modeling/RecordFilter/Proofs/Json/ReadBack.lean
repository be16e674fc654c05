import RecordFilter.Json.Parser
import RecordFilter.Proofs.Json.Strings
import RecordFilter.Proofs.Json.Tree

/-! What the reader of JSON texts makes of indented ones. With enough fuel it reads from the text of
a well-formed value what the value is read back as, and stops right behind the text.
-/

namespace RecordFilter.Json

theorem readValue_list (depth fuel : Nat) (rest : List Char)
    : readValue (depth + 1) (fuel + 1) ('[' :: rest)
      = readItems depth fuel true rest >>= fun read => .ok (.array read.1, read.2) := by
  rw [readValue]
  rfl

theorem readValue_zero_list (fuel : Nat) (rest : List Char)
    : readValue 0 (fuel + 1) ('[' :: rest) = .error (.next .nestedTooDeep ('[' :: rest)) := by
  rw [readValue]
  rfl

theorem readValue_object {depth fuel : Nat} {rest : List Char}
    (named : afterNumberName? rest = none)
    : readValue (depth + 1) (fuel + 1) ('{' :: rest)
      = readMembers depth fuel true rest >>= fun read => .ok (.object read.1, read.2) := by
  have skip : skipSpace ('{' :: rest) = '{' :: rest := rfl
  simp only [readValue, skip, named]
  rfl

theorem readValue_numberObject {depth fuel : Nat} {rest after : List Char}
    (named : afterNumberName? rest = some after)
    : readValue (depth + 1) (fuel + 1) ('{' :: rest)
      = readNumberObject after >>= fun read => .ok (.number (String.ofList read.1), read.2) := by
  have skip : skipSpace ('{' :: rest) = '{' :: rest := rfl
  simp only [readValue, skip, named]
  rfl

theorem readValue_zero_object (fuel : Nat) (rest : List Char)
    : readValue 0 (fuel + 1) ('{' :: rest) = .error (.next .nestedTooDeep ('{' :: rest)) := by
  rw [readValue]
  rfl

theorem readValue_string (depth fuel : Nat) (text : String) (rest : List Char)
    : readValue depth (fuel + 1) (stringChars text ++ rest) = .ok (.string text, rest) := by
  rw [stringChars_append, readValue]
  change (scanString _ >>= _) = _
  rw [scanString_escaped]
  rfl

theorem Numeral.exists_chars_eq_cons (n : Numeral)
    : ∃ c cs, n.chars = c :: cs ∧ (c = '-' ∨ Text.isDigit c = true) := by
  cases sign : n.negative with
  | true => exact ⟨'-', _, by rw [chars, sign]; rfl, .inl rfl⟩
  | false =>
      cases whole : n.whole with
      | nil => exact absurd whole n.whole_ne_nil
      | cons c cs =>
          refine ⟨c, _, by rw [chars, sign, whole]; rfl, .inr ?_⟩
          exact n.isDigit_of_mem_whole c (by simp [whole])

theorem skipSpace_cons {c : Char} {cs : List Char} (visible : isSpace c = false)
    : skipSpace (c :: cs) = c :: cs :=
  List.dropWhile_cons_of_neg (by simp [visible])

theorem isSpace_of_number {c : Char} (number : (c = '-' || Text.isDigit c) = true)
    : isSpace c = false := by
  rw [← Bool.not_eq_true]
  intro space
  simp only [isSpace, Bool.or_eq_true, beq_iff_eq] at space
  rcases space with ((rfl | rfl) | rfl) | rfl <;> exact absurd number (by decide)

theorem readValue_numeral (depth fuel : Nat) (n : Numeral) {rest : List Char}
    (stop : ∀ c ∈ rest.head?, continuesNumber c = false)
    : readValue depth (fuel + 1) (n.chars ++ rest) = .ok (.number n.text, rest) := by
  have scanned := scanNumber_append n stop
  obtain ⟨c, cs, same, first⟩ := n.exists_chars_eq_cons
  rw [same, List.cons_append] at scanned ⊢
  have number : (c = '-' || Text.isDigit c) = true := by simpa using first
  have skip : skipSpace (c :: (cs ++ rest)) = c :: (cs ++ rest) :=
    skipSpace_cons (isSpace_of_number number)
  rw [readValue, skip]
  split
  case h_8 mark =>
    cases mark
    rw [if_pos number, scanned, ok_bind, ← same]
    rfl
  case h_1 mark => cases mark
  all_goals
    next mark =>
      cases mark
      exact absurd number (by decide)

section Layout

variable {level : Nat} {rest cs : List Char} {closing : Char}

theorem skipSpace_lineBreak : skipSpace (lineBreak level ++ cs) = skipSpace cs := by
  have blank : ∀ c ∈ lineBreak level, isSpace c = true := by
    intro c member
    rcases List.mem_cons.mp member with rfl | space
    · rfl
    · rw [List.eq_of_mem_replicate space]
      rfl
  exact List.dropWhile_append_of_pos blank

theorem length_lineBreak (level : Nat) : (lineBreak level).length = 2 * level + 1 := by
  simp [lineBreak]

theorem separated_cons (separator part : List Char) (parts : List (List Char))
    : separated separator (part :: parts) = part ++ parts.flatMap (separator ++ ·) := by
  induction parts generalizing part with
  | nil => simp [separated]
  | cons next parts ih => simp [separated, ih]

/-- The parts of a container after its first one, its end and what follows it. -/
def laterParts (closing : Char) (level : Nat) (parts : List (List Char)) (rest : List Char)
    : List Char :=
  parts.flatMap ((',' :: lineBreak (level + 1)) ++ ·) ++ (lineBreak level ++ closing :: rest)

theorem indented_cons_append (opening : Char) (part : List Char) (parts : List (List Char))
    : indented level opening closing (part :: parts) ++ rest
      = opening :: (lineBreak (level + 1) ++ (part ++ laterParts closing level parts rest)) := by
  simp [indented, separated_cons, laterParts]

theorem laterParts_cons (part : List Char) (parts : List (List Char))
    : laterParts closing level (part :: parts) rest
      = ',' :: (lineBreak (level + 1) ++ (part ++ laterParts closing level parts rest)) := by
  simp [laterParts]

theorem continuesNumber_of_mem_head?_laterParts (parts : List (List Char))
    : ∀ c ∈ (laterParts closing level parts rest).head?, continuesNumber c = false := by
  intro c first
  cases parts with
  | nil =>
      cases first
      rfl
  | cons part parts =>
      rw [laterParts_cons] at first
      cases first
      rfl

/-- A value starts with a visible character, which is no end of a list, and a quote only when the
value is a text.
-/
theorem WellFormed.exists_indentedChars_eq_cons {json : Json} (formed : json.WellFormed)
    (level : Nat)
    : ∃ c cs,
        json.indentedChars level = c :: cs
        ∧ isSpace c = false
        ∧ c ≠ ']'
        ∧ (c = '"' → ∃ text, json = .string text) := by
  cases formed with
  | null => exact ⟨_, _, rfl, rfl, by decide, by simp⟩
  | bool value => cases value <;> exact ⟨_, _, rfl, rfl, by decide, by simp⟩
  | number n =>
      obtain ⟨c, cs, same, first⟩ := n.exists_chars_eq_cons
      have number : (c = '-' || Text.isDigit c) = true := by simpa using first
      have other {mark : Char} (h : ¬(mark = '-' || Text.isDigit mark) = true) : c ≠ mark :=
        fun same => h (same ▸ number)
      refine ⟨c, cs, ?_, isSpace_of_number number, other (by decide), ?_⟩
      · rw [indentedChars, chars, Numeral.text, String.toList_ofList, same]
      · exact fun quote => absurd quote (other (by decide))
  | string text => exact ⟨_, _, rfl, rfl, by decide, fun _ => ⟨text, rfl⟩⟩
  | @array items _ => cases items <;> exact ⟨_, _, rfl, rfl, by decide, by simp⟩
  | @object members _ _ => cases members <;> exact ⟨_, _, rfl, rfl, by decide, by simp⟩

end Layout

/-- With enough fuel the reader takes from the text of a value what it is read back as. -/
def IsReadBack (json : Json) : Prop :=
  ∀ (depth fuel level : Nat) (rest : List Char),
    2 * (json.indentedChars level ++ rest).length < fuel
    → (∀ c ∈ rest.head?, continuesNumber c = false)
    → (readValue depth (fuel + 1) (json.indentedChars level ++ rest)).toOption
      = (json.readBack? depth).map fun result => (result, rest)

section Items

variable {depth fuel level : Nat} {first : Bool} {rest cs start : List Char}

theorem readItems_end (closed : skipSpace cs = ']' :: rest)
    : readItems depth (fuel + 1) first cs = .ok ([], rest) := by
  rw [readItems, nextItem?, closed]
  rfl

theorem readItems_next (next : nextItem? first cs = .ok (some start))
    : readItems depth (fuel + 1) first cs
      = readValue depth fuel start >>= fun read =>
          readItems depth fuel false read.2 >>= fun later =>
            .ok (read.1 :: later.1, later.2) := by
  rw [readItems, next]
  rfl

/-- An item is found after the space before it, be it the first one or one after a comma. -/
theorem nextItem?_eq_some {json : Json} (formed : json.WellFormed) (first : Bool)
    : nextItem? first
        ((if first then [] else [','])
        ++ (lineBreak level ++ (json.indentedChars level ++ rest)))
      = .ok (some (json.indentedChars level ++ rest)) := by
  obtain ⟨c, cs, same, visible, inside, _⟩ := formed.exists_indentedChars_eq_cons level
  have skip
      : skipSpace (lineBreak level ++ (json.indentedChars level ++ rest)) = c :: (cs ++ rest) := by
    rw [skipSpace_lineBreak, same, List.cons_append, skipSpace_cons visible]
  cases first with
  | true =>
      change nextItem? true (lineBreak level ++ _) = _
      rw [nextItem?, skip, same, List.cons_append]
      split
      next h => cases h
      next h => cases h; exact absurd rfl inside
      next h => cases h; rfl
  | false =>
      change nextItem? false (',' :: (lineBreak level ++ _)) = _
      rw [nextItem?, skipSpace_cons rfl]
      split
      next h => cases h
      next h => cases h
      next h =>
        cases h
        rw [if_neg Bool.false_ne_true, if_pos rfl, skip, same]
        split
        next h => cases h
        next h => cases h; exact absurd rfl inside
        next h => rfl

/-- One item is read, and then those after it. -/
theorem toOption_readItems_cons {item : Json} {items : List Json} (formed : item.WellFormed)
    (back : item.IsReadBack) (first : Bool)
    (enough
      : 2 * (item.indentedChars (level + 1)
          ++ laterParts ']' level (indentedItems (level + 1) items) rest).length < fuel)
    (later
      : (readItems depth (fuel + 1) false
          (laterParts ']' level (indentedItems (level + 1) items) rest)).toOption
        = (readBackItems? items depth).map fun results => (results, rest))
    : (readItems depth (fuel + 2) first
        ((if first then [] else [','])
        ++ (lineBreak (level + 1)
          ++ (item.indentedChars (level + 1)
            ++ laterParts ']' level (indentedItems (level + 1) items) rest)))).toOption
      = (readBackItems? (item :: items) depth).map fun results => (results, rest) := by
  have head := back depth fuel (level + 1) _ enough (continuesNumber_of_mem_head?_laterParts _)
  rw [readItems_next (nextItem?_eq_some formed first), toOption_bind, head, readBackItems?]
  cases item.readBack? depth with
  | none => rfl
  | some result =>
      simp only [Option.map_some, Option.bind_some, toOption_bind, later]
      cases readBackItems? items depth <;> rfl

/-- The items after the first one are read up to the end of their list, by list induction. -/
theorem toOption_readItems_later {items : List Json} (formed : ∀ item ∈ items, item.WellFormed)
    (back : ∀ item ∈ items, item.IsReadBack)
    (enough : 2 * (laterParts ']' level (indentedItems (level + 1) items) rest).length < fuel)
    : (readItems depth (fuel + 1) false
        (laterParts ']' level (indentedItems (level + 1) items) rest)).toOption
      = (readBackItems? items depth).map fun results => (results, rest) := by
  induction items generalizing fuel with
  | nil =>
      have closed
          : skipSpace (laterParts ']' level (indentedItems (level + 1) []) rest) = ']' :: rest :=
        skipSpace_lineBreak.trans (skipSpace_cons rfl)
      rw [readItems_end closed]
      rfl
  | cons item items ih =>
      rw [List.forall_mem_cons] at formed back
      rw [indentedItems, laterParts_cons] at enough ⊢
      simp only [List.length_cons, List.length_append] at enough
      obtain ⟨fuel, rfl⟩ := Nat.exists_eq_add_of_le' (by omega : 1 ≤ fuel)
      exact toOption_readItems_cons formed.1 back.1 false (by rw [List.length_append]; omega)
        (ih formed.2 back.2 (by omega))

end Items

section Members

variable {depth fuel level : Nat} {first : Bool} {rest cs start : List Char}

theorem readMembers_end (closed : skipSpace cs = '}' :: rest)
    : readMembers depth (fuel + 1) first cs = .ok ([], rest) := by
  rw [readMembers, nextMember?, closed]
  rfl

theorem readMembers_next {name : String}
    (next
      : nextMember? first cs
        = .ok (some (name.toList.flatMap escapeChar ++ '"' :: ':' :: start)))
    : readMembers depth (fuel + 1) first cs
      = readValue depth fuel start >>= fun read =>
          readMembers depth fuel false read.2 >>= fun later =>
            .ok ((name, read.1) :: later.1, later.2) := by
  rw [readMembers, next, ok_bind]
  change scanString _ >>= _ = _
  rw [scanString_escaped, ok_bind]
  rfl

theorem readValue_space (cs : List Char)
    : readValue depth (fuel + 1) (' ' :: cs) = readValue depth (fuel + 1) cs := by
  have skip : skipSpace (' ' :: cs) = skipSpace cs := rfl
  rw [readValue, skip]
  conv_rhs => rw [readValue]

theorem skipSpace_lineBreak_quote (cs : List Char)
    : skipSpace (lineBreak level ++ '"' :: cs) = '"' :: cs :=
  skipSpace_lineBreak.trans (skipSpace_cons rfl)

/-- A member is found after the space before it, be it the first one or one after a comma. -/
theorem nextMember?_eq_some (name : String) (first : Bool)
    : nextMember? first
        ((if first then [] else [',']) ++ (lineBreak level ++ (stringChars name ++ rest)))
      = .ok (some (name.toList.flatMap escapeChar ++ '"' :: rest)) := by
  rw [stringChars_append]
  cases first with
  | true =>
      change nextMember? true (lineBreak level ++ _) = _
      rw [nextMember?, skipSpace_lineBreak_quote]
      rfl
  | false =>
      change nextMember? false (',' :: (lineBreak level ++ _)) = _
      rw [nextMember?, skipSpace_cons rfl]
      split
      next h => cases h
      next h => cases h
      next h =>
        cases h
        rw [if_neg Bool.false_ne_true, if_pos rfl, skipSpace_lineBreak_quote]
        rfl

/-- The text of a member in an object. -/
def memberText (level : Nat) (member : String × Json) : List Char :=
  stringChars member.1 ++ ':' :: ' ' :: member.2.indentedChars level

theorem indentedMembers_cons (member : String × Json) (members : List (String × Json))
    : indentedMembers level (member :: members)
      = memberText level member :: indentedMembers level members :=
  rfl

theorem memberText_append (member : String × Json)
    : memberText level member ++ rest
      = stringChars member.1 ++ ':' :: ' ' :: (member.2.indentedChars level ++ rest) := by
  simp [memberText]

/-- One member is read, and then those after it. -/
theorem toOption_readMembers_cons {member : String × Json} {members : List (String × Json)}
    (back : member.2.IsReadBack) (first : Bool)
    (enough
      : 2 * (member.2.indentedChars (level + 1)
          ++ laterParts '}' level (indentedMembers (level + 1) members) rest).length < fuel)
    (later
      : (readMembers depth (fuel + 1) false
          (laterParts '}' level (indentedMembers (level + 1) members) rest)).toOption
        = (readBackMembers? members depth).map fun results => (results, rest))
    : (readMembers depth (fuel + 2) first
        ((if first then [] else [','])
        ++ (lineBreak (level + 1)
          ++ (memberText (level + 1) member
            ++ laterParts '}' level (indentedMembers (level + 1) members) rest)))).toOption
      = (readBackMembers? (member :: members) depth).map fun results => (results, rest) := by
  have head := back depth fuel (level + 1) _ enough (continuesNumber_of_mem_head?_laterParts _)
  rw [memberText_append, readMembers_next (nextMember?_eq_some member.1 first), readValue_space,
    toOption_bind, head, readBackMembers?]
  cases member.2.readBack? depth with
  | none => rfl
  | some result =>
      simp only [Option.map_some, Option.bind_some, toOption_bind, later]
      cases readBackMembers? members depth <;> rfl

/-- The members after the first one are read up to the end of their object, by list induction. -/
theorem toOption_readMembers_later {members : List (String × Json)}
    (back : ∀ member ∈ members, member.2.IsReadBack)
    (enough : 2 * (laterParts '}' level (indentedMembers (level + 1) members) rest).length < fuel)
    : (readMembers depth (fuel + 1) false
        (laterParts '}' level (indentedMembers (level + 1) members) rest)).toOption
      = (readBackMembers? members depth).map fun results => (results, rest) := by
  induction members generalizing fuel with
  | nil =>
      have closed
          : skipSpace (laterParts '}' level (indentedMembers (level + 1) []) rest) = '}' :: rest :=
        skipSpace_lineBreak.trans (skipSpace_cons rfl)
      rw [readMembers_end closed]
      rfl
  | cons member members ih =>
      rw [List.forall_mem_cons] at back
      rw [indentedMembers_cons, laterParts_cons] at enough ⊢
      simp only [List.length_cons, List.length_append, memberText] at enough
      obtain ⟨fuel, rfl⟩ := Nat.exists_eq_add_of_le' (by omega : 1 ≤ fuel)
      exact toOption_readMembers_cons back.1 false (by rw [List.length_append]; omega)
        (ih back.2 (by omega))

end Members

section NumberObjects

variable {level : Nat} {rest : List Char}

/-- The name of the first member is looked up after the space before it. -/
theorem afterNumberName?_eq (name : String) (cs : List Char)
    : afterNumberName? (lineBreak level ++ (stringChars name ++ cs))
      = if name = numberName then some cs else none := by
  simp only [stringChars_append, afterNumberName?, skipSpace_lineBreak_quote, scanString_escaped]

/-- An object that stands for a number ends after its only member. -/
theorem toOption_endOfObject (members : List (String × Json))
    : (endOfObject (laterParts '}' level (indentedMembers (level + 1) members) rest)).toOption
      = if members = [] then some rest else none := by
  cases members with
  | nil =>
      have closed
          : skipSpace (laterParts '}' level (indentedMembers (level + 1) []) rest) = '}' :: rest :=
        skipSpace_lineBreak.trans (skipSpace_cons rfl)
      rw [endOfObject, closed]
      rfl
  | cons member members =>
      rw [indentedMembers_cons, laterParts_cons, endOfObject, skipSpace_cons rfl]
      rfl

/-- After the reserved name only a text that holds a number makes up a number, if it is the value of
the only member.
-/
theorem toOption_readNumberObject {member : String × Json} (members : List (String × Json))
    (formed : member.2.WellFormed)
    : (readNumberObject
          (':' :: ' ' :: (member.2.indentedChars (level + 1)
            ++ laterParts '}' level (indentedMembers (level + 1) members) rest))
        >>= fun read => .ok (Json.number (String.ofList read.1), read.2)).toOption
      = (numberOfMembers? (member :: members)).map fun result => (result, rest) := by
  obtain ⟨name, value⟩ := member
  obtain ⟨c, cs, same, visible, _, quote⟩ := formed.exists_indentedChars_eq_cons (level + 1)
  have start (rest : List Char)
      : skipSpace (' ' :: (value.indentedChars (level + 1) ++ rest)) = c :: (cs ++ rest) := by
    change skipSpace (value.indentedChars (level + 1) ++ rest) = _
    rw [same, List.cons_append, skipSpace_cons visible]
  have colon (cs : List Char) : afterColon (':' :: cs) = .ok cs := rfl
  rw [readNumberObject, colon, ok_bind, start]
  -- Only a text starts with the quote that is looked for.
  split
  next rest' opening =>
    cases opening
    obtain ⟨text, rfl⟩ := quote rfl
    rw [indentedChars, chars, stringChars, List.cons_append] at same
    obtain rfl := (List.cons.inj same).2
    rw [List.append_assoc, List.singleton_append, scanString_escaped, ok_bind]
    simp only [toOption_bind, toOption_mapError, toOption_endOfObject, pure_eq_ok]
    cases members with
    | nil =>
        rw [numberOfMembers?]
        cases (numberOfContents text.toList).toOption <;> rfl
    | cons => cases (numberOfContents text.toList).toOption <;> rfl
  next other =>
    have noText (text : String) : value ≠ .string text := by
      rintro rfl
      rw [indentedChars, chars, stringChars, List.cons_append] at same
      exact other _ (by rw [← (List.cons.inj same).1])
    rw [error_bind, numberOfMembers?]
    · rfl
    · intro name' text only
      cases only
      exact noText text rfl

end NumberObjects

section Containers

variable {depth fuel level : Nat} {rest : List Char}

/-- A list is read when its items are and it may be opened. -/
theorem toOption_readValue_array {items : List Json} {cs : List Char}
    (inside
      : ∀ depth,
          (readItems depth fuel true cs).toOption
          = (readBackItems? items depth).map fun results => (results, rest))
    : (readValue depth (fuel + 1) ('[' :: cs)).toOption
      = ((array items).readBack? depth).map fun result => (result, rest) := by
  cases depth with
  | zero =>
      rw [readValue_zero_list]
      rfl
  | succ depth =>
      rw [readValue_list, toOption_bind, inside depth, readBack?]
      cases readBackItems? items depth <;> rfl

/-- An object without the reserved name is read when its members are and it may be opened. -/
theorem toOption_readValue_object {members : List (String × Json)} {cs : List Char}
    (free : ¬IsNumberObject members) (named : afterNumberName? cs = none)
    (inside
      : ∀ depth,
          (readMembers depth fuel true cs).toOption
          = (readBackMembers? members depth).map fun results => (results, rest))
    : (readValue depth (fuel + 1) ('{' :: cs)).toOption
      = ((object members).readBack? depth).map fun result => (result, rest) := by
  cases depth with
  | zero =>
      rw [readValue_zero_object]
      rfl
  | succ depth =>
      rw [readValue_object named, toOption_bind, inside depth, readBack?, if_neg free]
      cases readBackMembers? members depth <;> rfl

/-- An object with the reserved name is read as a number when it may be opened. -/
theorem toOption_readValue_numberObject {member : String × Json}
    {members : List (String × Json)} (reserved : member.1 = numberName)
    (formed : member.2.WellFormed)
    : (readValue depth (fuel + 1)
          ('{' :: (lineBreak (level + 1)
            ++ (memberText (level + 1) member
              ++ laterParts '}' level (indentedMembers (level + 1) members) rest)))).toOption
      = ((object (member :: members)).readBack? depth).map fun result => (result, rest) := by
  cases depth with
  | zero =>
      rw [readValue_zero_object]
      rfl
  | succ depth =>
      have names : IsNumberObject (member :: members) := congrArg some reserved
      rw [memberText_append,
        readValue_numberObject ((afterNumberName?_eq _ _).trans (if_pos reserved)),
        toOption_readNumberObject members formed, readBack?, if_pos names]

end Containers

/-- A list is read back when its items are. -/
theorem isReadBack_array {items : List Json} (formed : ∀ item ∈ items, item.WellFormed)
    (back : ∀ item ∈ items, item.IsReadBack)
    : (array items).IsReadBack := by
  intro depth fuel level rest enough _
  cases items with
  | nil =>
      rw [indentedChars, indentedItems, indented] at enough ⊢
      obtain ⟨fuel, rfl⟩ := Nat.exists_eq_add_of_le' (Nat.one_le_of_lt enough)
      exact toOption_readValue_array fun depth => by
        rw [readItems_end rfl]
        rfl
  | cons item items =>
      rw [List.forall_mem_cons] at formed back
      rw [indentedChars, indentedItems, indented_cons_append] at enough ⊢
      simp only [List.length_cons, List.length_append, length_lineBreak] at enough
      obtain ⟨fuel, rfl⟩ := Nat.exists_eq_add_of_le' (by omega : 2 ≤ fuel)
      exact toOption_readValue_array fun depth =>
        toOption_readItems_cons formed.1 back.1 true (by rw [List.length_append]; omega)
          (toOption_readItems_later formed.2 back.2 (by omega))

/-- An object is read back when its members are; with the reserved name only its first member
counts.
-/
theorem isReadBack_object {members : List (String × Json)}
    (formed : ∀ member ∈ members, member.2.WellFormed)
    (back : ∀ member ∈ members, member.2.IsReadBack)
    : (object members).IsReadBack := by
  intro depth fuel level rest enough _
  cases members with
  | nil =>
      rw [indentedChars, indentedMembers, indented] at enough ⊢
      obtain ⟨fuel, rfl⟩ := Nat.exists_eq_add_of_le' (Nat.one_le_of_lt enough)
      exact toOption_readValue_object (by decide) rfl fun depth => by
        rw [readMembers_end rfl]
        rfl
  | cons member members =>
      rw [List.forall_mem_cons] at back formed
      rw [indentedChars, indentedMembers_cons, indented_cons_append] at enough ⊢
      simp only [List.length_cons, List.length_append, length_lineBreak, memberText] at enough
      obtain ⟨fuel, rfl⟩ := Nat.exists_eq_add_of_le' (by omega : 2 ≤ fuel)
      by_cases reserved : member.1 = numberName
      · exact toOption_readValue_numberObject reserved formed.1
      · have free : ¬IsNumberObject (member :: members) := fun names =>
          reserved (Option.some.inj names)
        refine toOption_readValue_object free ?_ fun depth =>
          toOption_readMembers_cons back.1 true (by rw [List.length_append]; omega)
            (toOption_readMembers_later back.2 (by omega))
        rw [memberText_append, afterNumberName?_eq, if_neg reserved]

/-- Every well-formed value is read back from its text, by induction on it. -/
theorem WellFormed.isReadBack {json : Json} (formed : json.WellFormed) : json.IsReadBack := by
  induction formed with
  | null =>
      intro depth fuel level rest _ _
      rfl
  | bool value =>
      intro depth fuel level rest _ _
      cases value <;> rfl
  | number n =>
      intro depth fuel level rest _ stop
      rw [indentedChars, chars, Numeral.text, String.toList_ofList, ← Numeral.text,
        readValue_numeral depth fuel n stop]
      rfl
  | string text =>
      intro depth fuel level rest _ _
      rw [indentedChars, chars, readValue_string]
      rfl
  | array each ih => exact isReadBack_array each ih
  | object _ each ih => exact isReadBack_object each ih

/-- The indented text of a well-formed value is parsed as what the value is read back as where
containers are nested up to the limit of the reader.
-/
theorem WellFormed.toOption_parse {json : Json} (formed : json.WellFormed)
    : (parse json.indentedText).toOption = json.readBack? nestingLimit := by
  have text : json.indentedText.toList = json.indentedChars 0 := String.toList_ofList
  have read : (leading json.indentedText).toOption
      = (json.readBack? nestingLimit).map fun result => (result, []) := by
    have back := formed.isReadBack nestingLimit (2 * (json.indentedChars 0).length + 1) 0 []
      (by rw [List.append_nil]; omega) (by simp)
    rw [List.append_nil] at back
    rw [leading, toOption_mapError, text]
    exact back
  have ended : checkEnd json.indentedText [] = .ok () := rfl
  have canonical : (parse json.indentedText).toOption
      = (parseWritten json.indentedText).toOption.map canonical := by
    rw [parse]
    cases parseWritten json.indentedText <;> rfl
  rw [canonical, parseWritten, toOption_bind, read]
  cases result : json.readBack? nestingLimit with
  | none => rfl
  | some value =>
      simp only [Option.map_some, Option.bind_some, ended, ok_bind, pure_eq_ok]
      exact congrArg some (formed.of_readBack? result).1.canonical_eq

end RecordFilter.Json
