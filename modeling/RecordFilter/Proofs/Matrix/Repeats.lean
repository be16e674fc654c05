import RecordFilter.Proofs.Json.Canonical
import RecordFilter.Proofs.Matrix.Grammar

/-! Documents whose objects repeat a name. Of the members with one name only the last is read, and
what the others hold is lost without an error. Nothing is lost exactly when no object that stands
for a part of the matrix repeats a name.
-/

namespace RecordFilter

namespace Json

/-- The operator that combines operands may be any of these names. -/
def isLogicalName (name : String) : Bool :=
  [LogicalOperator.and, .or, .not].any fun op => op.code == name

/-- An object without a name of a field stands in the place of a matrix. -/
def standsForNode : Json → Bool
  | .object members => members.all fun member => isLogicalName member.1
  | _ => false

mutual

/-- The values in the place of a matrix, each before those below it. -/
def writtenNodes : Json → List Json
  | .object members => .object members :: nodesOfMembers members
  | _ => []

def nodesOfMembers : List (String × Json) → List Json
  | [] => []
  | (_, .array elements) :: rest => nodesOfElements elements ++ nodesOfMembers rest
  | _ :: rest => nodesOfMembers rest

def nodesOfElements : List Json → List Json
  | [] => []
  | element :: rest =>
      (if element.standsForNode then element.writtenNodes else []) ++ nodesOfElements rest

end

/-- The elements of the lists that a value has as its members. -/
def writtenElements (json : Json) : List Json :=
  json.members.flatMap fun
    | (_, .array elements) => elements
    | _ => []

/-- The elements in the place of a condition. -/
def writtenConditions (json : Json) : List Json :=
  json.writtenNodes.flatMap fun part => part.writtenElements.filter (!·.standsForNode)

/-- The values in the place of the test of a condition. -/
def writtenTests (json : Json) : List Json :=
  json.writtenConditions.flatMap fun condition => condition.members.map Prod.snd

/-- Every value that stands in the place of a part of a matrix. -/
def writtenParts (json : Json) : List Json :=
  json.writtenNodes ++ json.writtenConditions ++ json.writtenTests

section Node

variable {name : String} {elements : List Json}

theorem nodesOfElements_eq_flatMap (elements : List Json)
    : nodesOfElements elements = (elements.filter (·.standsForNode)).flatMap writtenNodes := by
  induction elements with
  | nil => rfl
  | cons element rest ih =>
      rw [nodesOfElements, List.filter_cons, ih]
      split <;> simp

theorem writtenNodes_node
    : writtenNodes (.object [(name, .array elements)])
      = .object [(name, .array elements)]
        :: (elements.filter (·.standsForNode)).flatMap writtenNodes := by
  rw [writtenNodes, nodesOfMembers, nodesOfMembers, List.append_nil, nodesOfElements_eq_flatMap]

theorem writtenConditions_node
    : writtenConditions (.object [(name, .array elements)])
      = elements.filter (!·.standsForNode)
        ++ (elements.filter (·.standsForNode)).flatMap writtenConditions := by
  rw [writtenConditions, writtenNodes_node, List.flatMap_cons, List.flatMap_assoc]
  congr 1
  rw [writtenElements, members, List.flatMap_singleton]

/-- The parts of a node are itself, its conditions with their tests, and the parts of its elements
that are nodes.
-/
theorem mem_writtenParts_node_iff {part : Json}
    : part ∈ writtenParts (.object [(name, .array elements)])
      ↔ part = .object [(name, .array elements)]
        ∨ (∃ element ∈ elements,
            element.standsForNode = false
            ∧ (part = element ∨ part ∈ element.members.map Prod.snd))
        ∨ ∃ element ∈ elements, element.standsForNode = true ∧ part ∈ element.writtenParts := by
  simp only [writtenParts, writtenTests, writtenNodes_node, writtenConditions_node,
    List.mem_append, List.mem_cons, List.mem_flatMap, List.mem_filter, List.flatMap_append]
  grind

end Node

theorem mem_writtenParts_self {members : List (String × Json)}
    : object members ∈ writtenParts (.object members) := by
  simp [writtenParts, writtenNodes]

theorem hasDistinctNames_of_length_le_one {json : Json} (alone : json.members.length ≤ 1)
    : json.HasDistinctNames := by
  unfold HasDistinctNames
  match json.members, alone with
  | [], _ => exact List.nodup_nil
  | [member], _ => exact List.pairwise_singleton _ _

theorem hasDistinctNames_of_mem_elements {name : String} {elements : List Json}
    (distinct : ∀ part ∈ writtenParts (.object [(name, .array elements)]), part.HasDistinctNames)
    : ∀ element ∈ elements, element.HasDistinctNames := by
  simp only [mem_writtenParts_node_iff] at distinct
  intro element member
  cases element with
  | object members =>
      cases stands : standsForNode (.object members) with
      | true => exact distinct _ (.inr (.inr ⟨_, member, stands, mem_writtenParts_self⟩))
      | false => exact distinct _ (.inr (.inl ⟨_, member, stands, .inl rfl⟩))
  | null | bool _ | number _ | string _ | array _ => exact List.nodup_nil

section Kinds

variable {elements : List Json}
  (kinds : ∀ element ∈ elements, element.standsForNode = element.canonical.isNode)

include kinds

theorem nodeElements_map_canonical
    : nodeElements (elements.map canonical)
      = (elements.filter (·.standsForNode)).map canonical := by
  rw [nodeElements, List.filter_map]
  exact congrArg _ (List.filter_congr fun element member => (kinds element member).symm)

theorem conditionElements_map_canonical
    : conditionElements (elements.map canonical)
      = (elements.filter (!·.standsForNode)).map canonical := by
  rw [conditionElements, List.filter_map]
  exact congrArg _ (List.filter_congr fun element member =>
    congrArg not (kinds element member).symm)

end Kinds

theorem standsForNode_singleton {name : String} {value : Json}
    : standsForNode (.object [(name, value)]) = isNode (.object [(name, value)]) :=
  Bool.and_true _

/-- A value whose canonical form is a node has at most one member and stands for a node. -/
theorem written_of_isNode {json : Json} (distinct : json.HasDistinctNames)
    (node : json.canonical.isNode = true)
    : json.standsForNode = true ∧ json.members.length ≤ 1 := by
  cases json with
  | object members =>
      generalize same : (object members).canonical = kept at node
      match kept, node with
      | .object [], _ =>
          obtain rfl := eq_nil_of_canonical_eq distinct same
          exact ⟨rfl, Nat.zero_le _⟩
      | .object [(name, value)], node =>
          obtain ⟨written, rfl, rfl⟩ := eq_singleton_of_canonical_eq distinct same
          exact ⟨standsForNode_singleton.trans node, Nat.le_refl _⟩
  | null | bool _ | number _ | string _ | array _ => cases node

/-- A value whose canonical form is read as a condition has one member, with a value in the place of
the test that has one member as well when it repeats no name.
-/
theorem written_of_condition {json : Json} {condition : Condition}
    (distinct : json.HasDistinctNames) (read : condition.ReadFrom json.canonical)
    : json.standsForNode = false
      ∧ json.members.length ≤ 1
      ∧ ∀ test ∈ json.members.map Prod.snd, test.HasDistinctNames → test.members.length ≤ 1 := by
  obtain ⟨free, payload, same, _⟩ := read
  cases json with
  | object members =>
      obtain ⟨written, rfl, inner⟩ := eq_singleton_of_canonical_eq distinct same
      refine ⟨?_, Nat.le_refl _, fun test member unique => ?_⟩
      · rw [standsForNode_singleton, ← Bool.not_eq_true, isNode_singleton_iff]
        exact fun ⟨op, logical⟩ => free op logical
      · obtain rfl : test = written := by simpa [Json.members] using member
        cases test with
        | object members =>
            obtain ⟨_, rfl, _⟩ := eq_singleton_of_canonical_eq unique inner.symm
            exact Nat.le_refl _
        | null | bool _ | number _ | string _ | array _ => exact Nat.zero_le _
  | null | bool _ | number _ | string _ | array _ => cases same

/-- What is read as a node stands for one, and what is read as a condition does not. -/
theorem standsForNode_eq_isNode {json : Json} (distinct : json.HasDistinctNames)
    (tests : json.canonical.isNode = false → ∃ c : Condition, c.ReadFrom json.canonical)
    : json.standsForNode = json.canonical.isNode := by
  cases node : json.canonical.isNode with
  | true => exact (written_of_isNode distinct node).1
  | false =>
      obtain ⟨c, read⟩ := tests node
      exact (written_of_condition distinct read).1

end Json

namespace Matrix

/-- Nothing is lost: each part that is written has one member at most, and each condition that is
written counts as one of the matrix.
-/
structure Keeps (m : Matrix) (written : Json) : Prop where
  alone : ∀ part ∈ written.writtenParts, part.members.length ≤ 1
  counted : m.allConditions.length = written.writtenConditions.length

section Node

variable {name : String} {elements : List Json} {conditions : List Condition}
  {nested : List Matrix}

/-- A node keeps all when it has as many conditions as are written and each nested matrix keeps what
its own element writes.
-/
theorem keeps_node (op : LogicalOperator)
    (distinct : ∀ part ∈ Json.writtenParts (.object [(name, .array elements)]),
      part.HasDistinctNames)
    (tests : ∀ element ∈ elements, element.standsForNode = false
      → ∃ c : Condition, c.ReadFrom element.canonical)
    (count : conditions.length = (elements.filter (!·.standsForNode)).length)
    (below : List.Forall₂ (fun element m => Keeps m element) (elements.filter (·.standsForNode))
      nested)
    : (node op conditions nested).Keeps (.object [(name, .array elements)]) := by
  constructor
  · intro part found
    have own := Json.hasDistinctNames_of_mem_elements distinct
    rw [Json.mem_writtenParts_node_iff] at found
    rcases found with rfl | ⟨element, member, stands, found⟩ | ⟨element, member, stands, found⟩
    · exact Nat.le_refl _
    · obtain ⟨c, read⟩ := tests element member stands
      obtain ⟨_, alone, test⟩ := Json.written_of_condition (own element member) read
      rcases found with rfl | inside
      · exact alone
      · exact test part inside <| distinct part <|
          Json.mem_writtenParts_node_iff.mpr (.inr (.inl ⟨element, member, stands, .inr inside⟩))
    · obtain ⟨m, keeps⟩ :=
        exists_forall₂_iff.mp ⟨_, below⟩ element (List.mem_filter.mpr ⟨member, stands⟩)
      exact keeps.alone part found
  · rw [Json.writtenConditions_node, allConditions_node, List.length_append, List.length_append,
      List.length_flatMap, List.length_flatMap, count,
      map_eq_of_forall₂ below fun _ _ _ keeps => keeps.counted]

end Node

/-- Where no part repeats a name nothing that is written is lost; by induction on the matrix. -/
theorem ReadFrom.keeps {m : Matrix} {written : Json} (read : m.ReadFrom written.canonical)
    (distinct : ∀ part ∈ written.writtenParts, part.HasDistinctNames)
    : m.Keeps written := by
  induction m using Matrix.induction generalizing written with
  | step op conditions nested ih =>
      generalize same : written.canonical = kept at read
      cases written with
      | null | bool _ | number _ | string _ | array _ => cases same; cases read
      | object members =>
          have root := distinct _ Json.mem_writtenParts_self
          cases read with
          | empty =>
              obtain rfl := Json.eq_nil_of_canonical_eq root same
              exact ⟨by simp [Json.writtenParts, Json.writtenNodes, Json.nodesOfMembers,
                Json.writtenTests, Json.writtenConditions, Json.writtenElements, Json.members], rfl⟩
          | @node _ _ _ kept hc hn =>
              obtain ⟨operands, rfl, inner⟩ := Json.eq_singleton_of_canonical_eq root same
              obtain ⟨elements, rfl, rfl⟩ := Json.eq_array_of_canonical_eq inner.symm
              have tests {element : Json} (member : element ∈ elements)
                  (condition : element.canonical.isNode = false)
                  : ∃ c : Condition, c.ReadFrom element.canonical :=
                exists_forall₂_right_iff.mp ⟨_, hc⟩ _ <|
                  Json.mem_conditionElements_iff.mpr ⟨List.mem_map_of_mem member, condition⟩
              have kinds
                  : ∀ element ∈ elements, element.standsForNode = element.canonical.isNode :=
                fun element member =>
                  Json.standsForNode_eq_isNode
                    (Json.hasDistinctNames_of_mem_elements distinct element member) (tests member)
              rw [Json.conditionElements_map_canonical kinds, List.forall₂_map_right_iff] at hc
              rw [Json.nodeElements_map_canonical kinds, List.forall₂_map_right_iff] at hn
              -- The parts of an element are parts of the node, so that they repeat no name either.
              have each := (forall₂_imp_of_mem hn fun m member element => ih m member).flip
              have below
                  : List.Forall₂ (fun element m => Keeps m element)
                      (elements.filter (·.standsForNode)) nested :=
                forall₂_imp_of_mem each fun element member m step => by
                  rw [List.mem_filter] at member
                  exact step fun part found => distinct part <|
                    Json.mem_writtenParts_node_iff.mpr
                      (.inr (.inr ⟨element, member.1, member.2, found⟩))
              exact keeps_node op distinct
                (fun element member stands =>
                  tests member ((kinds element member).symm.trans stands))
                hc.length_eq below

/-- A text is read as the canonical form of what it writes. -/
theorem ofJsonText_of_parseWritten {text : String} {written : Json} (limit : Nat)
    (filled : Text.isBlankText text = false) (parsed : Json.parseWritten text = .ok written)
    : ofJsonText text limit = ofJson written.canonical limit := by
  rw [ofJsonText, filled, if_neg Bool.false_ne_true, Json.parse, parsed]
  rfl

theorem exists_written_of_ofJsonText {text : String} {limit : Nat} {m : Matrix}
    (read : ofJsonText text limit = .ok m)
    : ∃ written, Json.parseWritten text = .ok written ∧ m.ReadFrom written.canonical := by
  cases blank : Text.isBlankText text with
  | true =>
      rw [ofJsonText, blank, if_pos rfl] at read
      cases read
  | false =>
      cases parsed : Json.parseWritten text with
      | ok written =>
          rw [ofJsonText_of_parseWritten limit blank parsed] at read
          exact ⟨written, rfl, readFrom_of_ofJsonWithin read⟩
      | error fault =>
          rw [ofJsonText, blank, if_neg Bool.false_ne_true, Json.parse, parsed] at read
          cases read

/-- A text that is read loses nothing exactly when no part of what it writes repeats a name. -/
theorem ofJsonText_keeps_iff {text : String} {limit : Nat} {m : Matrix}
    (read : ofJsonText text limit = .ok m)
    : ∃ written,
        Json.parseWritten text = .ok written
        ∧ (m.Keeps written ↔ ∀ part ∈ written.writtenParts, part.HasDistinctNames) := by
  obtain ⟨written, parsed, read⟩ := exists_written_of_ofJsonText read
  exact ⟨written, parsed,
    fun keeps part found => Json.hasDistinctNames_of_length_le_one (keeps.alone part found),
    read.keeps⟩

/-- Conditions at two levels, with one name in different parts. -/
theorem ofJsonText_keeps_iff_of_nested_names
    : let below := Json.object [("_and", .array [.object [("a", .object [("_lt", .number "5")])]])]
      let written :=
        Json.object [("_and", .array [.object [("a", .object [("_gt", .number "1")])], below])]
      let text := written.text
      let m :=
        node .and [⟨"a", .greaterThan, .single (.json (.number "1")), rfl⟩]
          [node .and [⟨"a", .lessThan, .single (.json (.number "5")), rfl⟩] []]
      Json.parseWritten text = .ok written ∧ ofJsonText text 2 = .ok m ∧ m.Keeps written := by
  intro below written text m
  have parsed : Json.parseWritten text = .ok written := by
    simp only [text, written, below]
    cbv
  have read : ofJsonText text 2 = .ok m := by
    rw [ofJsonText_of_parseWritten 2 (by decide +kernel) parsed]
    rfl
  have alone : ∀ part ∈ written.writtenParts, part.members.length ≤ 1 := by decide
  obtain ⟨written', parsed', keeps⟩ := ofJsonText_keeps_iff read
  obtain rfl : written = written' := Except.ok.inj (parsed.symm.trans parsed')
  exact ⟨parsed, read,
    keeps.mpr fun part found => Json.hasDistinctNames_of_length_le_one (alone part found)⟩

/-- The operands under the first of two equal names are lost, and a condition among them. -/
theorem ofJsonText_of_repeated_operator
    : let written :=
        Json.object
          [("_and", .array [.object [("a", .object [("_eq", .number "1")])]]),
            ("_and", .array [.object [("b", .object [("_eq", .number "2")])]])]
      let text := written.text
      let m := node .and [⟨"b", .equal, .single (.json (.number "2")), rfl⟩] []
      Json.parseWritten text = .ok written
      ∧ ofJsonText text 10 = .ok m
      ∧ written ∈ written.writtenParts
      ∧ written.members.length = 2
      ∧ written.writtenConditions.length = 2
      ∧ m.allConditions.length = 1 := by
  intro written text m
  have parsed : Json.parseWritten text = .ok written := by
    simp only [text, written]
    cbv
  refine ⟨parsed, ?_, Json.mem_writtenParts_self, rfl, rfl, rfl⟩
  rw [ofJsonText_of_parseWritten 10 (by decide +kernel) parsed]
  rfl

end Matrix

end RecordFilter
