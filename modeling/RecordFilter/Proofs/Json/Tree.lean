import RecordFilter.Json.NumberObject
import RecordFilter.Proofs.Json.Canonical
import RecordFilter.Proofs.Json.Numeral

/-! JSON values as trees: induction over the values in containers, how deep these are nested, and
what a value becomes when it is written as text and read again. Nothing changes but for objects
whose first name is the reserved one, which come back as numbers or not at all.
-/

namespace RecordFilter.Json

/-- A property of values holds of all when each container has it as soon as the values in it have
it, and every other value has it.
-/
@[elab_as_elim]
theorem induction {motive : Json → Prop} (null : motive .null)
    (bool : ∀ value, motive (.bool value)) (number : ∀ text, motive (.number text))
    (string : ∀ text, motive (.string text))
    (array : ∀ items, (∀ item ∈ items, motive item) → motive (.array items))
    (object : ∀ members, (∀ member ∈ members, motive member.2) → motive (.object members))
    (json : Json)
    : motive json :=
  @Json.rec motive (fun items => ∀ item ∈ items, motive item)
    (fun members => ∀ member ∈ members, motive member.2) (fun member => motive member.2)
    null bool number string array object
    (by simp)
    (fun _ _ head tail => List.forall_mem_cons.mpr ⟨head, tail⟩)
    (by simp)
    (fun _ _ head tail => List.forall_mem_cons.mpr ⟨head, tail⟩)
    (fun _ _ h => h)
    json

mutual

/-- How deep containers are nested in a value, itself included. -/
def nesting : Json → Nat
  | .array items => 1 + nestingOfItems items
  | .object members => 1 + nestingOfMembers members
  | _ => 0

def nestingOfItems : List Json → Nat
  | [] => 0
  | item :: rest => max item.nesting (nestingOfItems rest)

def nestingOfMembers : List (String × Json) → Nat
  | [] => 0
  | (_, value) :: rest => max value.nesting (nestingOfMembers rest)

end

/-- A value as documents hold it: the text of a number is that of a numeral, and the members of an
object are in the order of their names.
-/
inductive WellFormed : Json → Prop
  | null : WellFormed .null
  | bool (value : Bool) : WellFormed (.bool value)
  | number (n : Numeral) : WellFormed (.number n.text)
  | string (text : String) : WellFormed (.string text)
  | array {items : List Json} (each : ∀ item ∈ items, WellFormed item)
    : WellFormed (.array items)
  | object {members : List (String × Json)}
    (ordered : (members.map Prod.fst).Pairwise fun x y => x < y)
    (each : ∀ member ∈ members, WellFormed member.2)
    : WellFormed (.object members)

/-- The first member of an object has the reserved name. -/
def IsNumberObject (members : List (String × Json)) : Prop :=
  (members.map Prod.fst).head? = some numberName

instance (members : List (String × Json)) : Decidable (IsNumberObject members) := by
  unfold IsNumberObject; infer_instance

/-- No object in the value is written like one that stands for a number. -/
inductive HasPlainNames : Json → Prop
  | null : HasPlainNames .null
  | bool (value : Bool) : HasPlainNames (.bool value)
  | number (text : String) : HasPlainNames (.number text)
  | string (text : String) : HasPlainNames (.string text)
  | array {items : List Json} (each : ∀ item ∈ items, HasPlainNames item)
    : HasPlainNames (.array items)
  | object {members : List (String × Json)} (free : ¬IsNumberObject members)
    (each : ∀ member ∈ members, HasPlainNames member.2)
    : HasPlainNames (.object members)

@[simp]
theorem hasPlainNames_array_iff {items : List Json}
    : (array items).HasPlainNames ↔ ∀ item ∈ items, item.HasPlainNames := by
  constructor
  · intro h
    cases h with
    | array each => exact each
  · exact .array

@[simp]
theorem hasPlainNames_object_iff {members : List (String × Json)}
    : (object members).HasPlainNames
      ↔ ¬IsNumberObject members ∧ ∀ member ∈ members, member.2.HasPlainNames := by
  constructor
  · intro h
    cases h with
    | object free each => exact ⟨free, each⟩
  · intro ⟨free, each⟩
    exact .object free each

theorem WellFormed.canonical_eq {json : Json} (formed : json.WellFormed)
    : json.canonical = json := by
  induction formed with
  | null | bool | number | string => rfl
  | @array items _ ih =>
      rw [canonical, canonicalItems_eq_map, List.map_congr_left ih, List.map_id'']
      exact fun _ => rfl
  | @object members ordered _ ih =>
      have same : members.map (Prod.map id canonical) = members := by
        conv_rhs => rw [← List.map_id members]
        exact List.map_congr_left fun member among => Prod.ext rfl (ih member among)
      rw [canonical, canonicalMembers_eq_map, same,
        sortMembers_of_pairwise_lt (List.pairwise_map.mp ordered)]

/-- The number that an object with the reserved name stands for. -/
def numberOfMembers? : List (String × Json) → Option Json
  | [(_, .string text)] =>
      (numberOfContents text.toList).toOption.map fun digits => .number (String.ofList digits)
  | _ => none

mutual

/-- What the text of a value is read back as where so many containers may be nested. -/
def readBack? : Json → Nat → Option Json
  | .array _, 0 => none
  | .array items, depth + 1 => (readBackItems? items depth).map .array
  | .object _, 0 => none
  | .object members, depth + 1 =>
      if IsNumberObject members then
        numberOfMembers? members
      else
        (readBackMembers? members depth).map .object
  | json, _ => some json

def readBackItems? : List Json → Nat → Option (List Json)
  | [], _ => some []
  | item :: rest, depth => do return (← item.readBack? depth) :: (← readBackItems? rest depth)

def readBackMembers? : List (String × Json) → Nat → Option (List (String × Json))
  | [], _ => some []
  | (name, value) :: rest, depth => do
      return (name, ← value.readBack? depth) :: (← readBackMembers? rest depth)

end

section ReadBack

variable {depth : Nat} {json result : Json}

theorem readBackItems?_eq_some_iff {items results : List Json}
    : readBackItems? items depth = some results
      ↔ List.Forall₂ (fun item result => item.readBack? depth = some result) items results := by
  rw [← mapM_eq_some_iff]
  suffices same : readBackItems? items depth = items.mapM fun item => item.readBack? depth by
    rw [same]
  induction items with
  | nil => rfl
  | cons item rest ih => rw [readBackItems?, ih, List.mapM_cons]

theorem readBackMembers?_eq_some_iff {members results : List (String × Json)}
    : readBackMembers? members depth = some results
      ↔ List.Forall₂
          (fun member result => member.1 = result.1 ∧ member.2.readBack? depth = some result.2)
          members results := by
  induction members generalizing results with
  | nil => simp [readBackMembers?, eq_comm]
  | cons member rest ih =>
      simp only [readBackMembers?, Option.bind_eq_bind, Option.bind_eq_some_iff, Option.pure_def,
        Option.some.injEq, List.forall₂_cons_left_iff, ih, Prod.exists]
      constructor
      · intro ⟨value, read, others, each, same⟩
        exact ⟨_, value, others, ⟨rfl, read⟩, each, same.symm⟩
      · intro ⟨name, value, others, ⟨same, read⟩, each, eq⟩
        exact ⟨value, read, others, each, by rw [same, eq]⟩

/-- The items of a list are read back together when none of them is nested too deep. -/
theorem readBackItems?_eq_ite {items : List Json}
    (each
      : ∀ item ∈ items,
          item.readBack? depth = if item.nesting ≤ depth then some item else none)
    : readBackItems? items depth = if nestingOfItems items ≤ depth then some items else none := by
  induction items with
  | nil => simp [readBackItems?, nestingOfItems]
  | cons item rest ih =>
      rw [List.forall_mem_cons] at each
      rw [readBackItems?, each.1, ih each.2, nestingOfItems]
      by_cases shallow : item.nesting ≤ depth
      · by_cases later : nestingOfItems rest ≤ depth <;> simp [shallow, later]
      · simp [shallow]

theorem readBackMembers?_eq_ite {members : List (String × Json)}
    (each
      : ∀ member ∈ members,
          member.2.readBack? depth = if member.2.nesting ≤ depth then some member.2 else none)
    : readBackMembers? members depth
      = if nestingOfMembers members ≤ depth then some members else none := by
  induction members with
  | nil => simp [readBackMembers?, nestingOfMembers]
  | cons member rest ih =>
      rw [List.forall_mem_cons] at each
      rw [readBackMembers?, each.1, ih each.2, nestingOfMembers]
      by_cases shallow : member.2.nesting ≤ depth
      · by_cases later : nestingOfMembers rest ≤ depth <;> simp [shallow, later]
      · simp [shallow]

/-- A value without reserved names is read back as itself, unless it is nested too deep; by
induction on it.
-/
theorem HasPlainNames.readBack?_eq (plain : json.HasPlainNames)
    : json.readBack? depth = if json.nesting ≤ depth then some json else none := by
  induction json using Json.induction generalizing depth with
  | null | bool value | number text | string text => simp [readBack?, nesting]
  | array items ih =>
      rw [hasPlainNames_array_iff] at plain
      cases depth with
      | zero => simp [readBack?, nesting]
      | succ depth =>
          rw [readBack?, nesting, Nat.add_comm 1,
            readBackItems?_eq_ite fun item member => ih item member (plain item member)]
          simp
  | object members ih =>
      rw [hasPlainNames_object_iff] at plain
      cases depth with
      | zero => simp [readBack?, nesting]
      | succ depth =>
          rw [readBack?, if_neg plain.1, nesting, Nat.add_comm 1,
            readBackMembers?_eq_ite fun member among => ih member among (plain.2 member among)]
          simp

/-- The text that an object with the reserved name holds is that of a number. -/
theorem exists_numeral_of_numberOfMembers? {members : List (String × Json)}
    (read : numberOfMembers? members = some result)
    : ∃ n : Numeral, result = .number n.text := by
  unfold numberOfMembers? at read
  split at read
  next name text =>
    obtain ⟨digits, contents, rfl⟩ := Option.map_eq_some_iff.mp read
    rw [toOption_eq_some_iff] at contents
    unfold numberOfContents at contents
    split at contents
    next => cases contents
    next =>
      split at contents
      next =>
        split at contents
        next digits' scanned =>
          cases contents
          obtain ⟨n, rfl⟩ := scanNumber_eq_ok scanned
          exact ⟨n, rfl⟩
        next => cases contents
        next => cases contents
      next => cases contents
  next => cases read

/-- What a well-formed value is read back as is well-formed too and has no reserved names; by
induction on the value.
-/
theorem WellFormed.of_readBack? (formed : json.WellFormed)
    (read : json.readBack? depth = some result)
    : result.WellFormed ∧ result.HasPlainNames := by
  induction formed generalizing depth result with
  | null =>
      cases read
      exact ⟨.null, .null⟩
  | bool value =>
      cases read
      exact ⟨.bool value, .bool value⟩
  | number n =>
      cases read
      exact ⟨.number n, .number n.text⟩
  | string text =>
      cases read
      exact ⟨.string text, .string text⟩
  | @array items formed ih =>
      cases depth with
      | zero => cases read
      | succ depth =>
          obtain ⟨results, each, rfl⟩ := Option.map_eq_some_iff.mp read
          rw [readBackItems?_eq_some_iff] at each
          have partners := forall₂_imp_of_mem each fun item member _ read => ih item member read
          have both (r : Json) (member : r ∈ results) : r.WellFormed ∧ r.HasPlainNames :=
            (exists_forall₂_right_iff.mp ⟨items, partners⟩ r member).choose_spec
          exact ⟨.array fun r member => (both r member).1,
            .array fun r member => (both r member).2⟩
  | @object members ordered formed ih =>
      cases depth with
      | zero => cases read
      | succ depth =>
          rw [readBack?] at read
          split at read
          next =>
            obtain ⟨n, rfl⟩ := exists_numeral_of_numberOfMembers? read
            exact ⟨.number n, .number n.text⟩
          next free =>
            obtain ⟨results, each, rfl⟩ := Option.map_eq_some_iff.mp read
            rw [readBackMembers?_eq_some_iff] at each
            -- The names stay, and with them their order and the first of them.
            have names : results.map Prod.fst = members.map Prod.fst :=
              map_eq_of_forall₂ each fun _ _ _ pair => pair.1.symm
            have partners := forall₂_imp_of_mem each fun member among _ pair =>
              ih member among pair.2
            have both (r : String × Json) (among : r ∈ results)
                : r.2.WellFormed ∧ r.2.HasPlainNames :=
              (exists_forall₂_right_iff.mp ⟨members, partners⟩ r among).choose_spec
            rw [IsNumberObject, ← names] at free
            exact ⟨.object (names ▸ ordered) fun r among => (both r among).1,
              .object free fun r among => (both r among).2⟩

end ReadBack

end RecordFilter.Json
