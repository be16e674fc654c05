import RecordFilter.Proofs.Schema.Lookup
import RecordFilter.Proofs.Text.Lowercase
import RecordFilter.Schema.Choices

/-! An index against the declarations that it is built from. It has the first field of each name and
no other, and a name finds the field that it finds first among the declarations. An index may also
be kept in two parts, a table of names and a list of fields: as each declaration goes into both or
into neither, they hold the same fields.
-/

namespace RecordFilter

variable {ρ : Type}

namespace Accessor

/-- No accessor before the position has the name of this one but for the letter case. -/
def isFirstIn (accessors : List (Accessor ρ)) : Accessor ρ × Nat → Bool
  | (accessor, position) =>
      (accessors.take position).all fun earlier =>
        Text.lowercase earlier.name != Text.lowercase accessor.name

/-- The accessors whose names no earlier one has, in their order. -/
def firstOfNames (accessors : List (Accessor ρ)) : List (Accessor ρ) :=
  (accessors.zipIdx.filter (isFirstIn accessors)).map Prod.fst

/-- An accessor is compared with those in front of it, whatever comes later. -/
theorem isFirstIn_concat {accessors : List (Accessor ρ)} {entry : Accessor ρ × Nat}
    (within : entry ∈ accessors.zipIdx) (last : Accessor ρ)
    : isFirstIn (accessors ++ [last]) entry = isFirstIn accessors entry := by
  obtain ⟨accessor, position⟩ := entry
  have inside : position < 0 + accessors.length := (List.mem_zipIdx within).2.1
  rw [isFirstIn, isFirstIn, List.take_append_of_le_length (by omega)]

theorem isFirstIn_last (accessors : List (Accessor ρ)) (last : Accessor ρ)
    : isFirstIn (accessors ++ [last]) (last, accessors.length)
      = !(FieldIndex.find? accessors last.name).isSome := by
  rw [isFirstIn, List.take_left, FieldIndex.find?, List.isSome_find?, List.not_any_eq_all_not]
  rfl

/-- An accessor at the end is left out exactly when its name occurs before. -/
theorem firstOfNames_concat (accessors : List (Accessor ρ)) (last : Accessor ρ)
    : firstOfNames (accessors ++ [last])
      = if (FieldIndex.find? accessors last.name).isSome then
          firstOfNames accessors
        else
          firstOfNames accessors ++ [last] := by
  have before
      : accessors.zipIdx.filter (isFirstIn (accessors ++ [last]))
        = accessors.zipIdx.filter (isFirstIn accessors) :=
    List.filter_congr fun _ within => isFirstIn_concat within last
  rw [firstOfNames, List.zipIdx_append, List.filter_append, before, List.map_append,
    List.zipIdx_singleton, Nat.zero_add, List.filter_singleton, isFirstIn_last, firstOfNames]
  cases (FieldIndex.find? accessors last.name).isSome with
  | true => exact List.append_nil _
  | false => rfl

end Accessor

namespace FieldIndex

/-- What an index has to be for the declarations of a record type: it has the first fields of their
names, and each name finds the first declared field that has this name but for the letter case.
-/
structure Represents (index : FieldIndex ρ) (schema : Schema ρ) : Prop where
  fields : index.fields = Accessor.firstOfNames schema.fields
  get
    : ∀ name,
        index.get name
        = match
            schema.fields.find? fun accessor =>
              Text.lowercase accessor.name == Text.lowercase name
          with
          | some accessor => .ok accessor
          | none => .error (.unknownField name schema.record)
  found
    : ∀ name accessor,
        index.get name = .ok accessor
        ↔ accessor ∈ index.fields ∧ Text.lowercase accessor.name = Text.lowercase name
  anyCase
    : ∀ accessor ∈ index.fields,
        ∀ name,
          Text.sameIgnoringAsciiCase accessor.name name = true →
          index.get name = .ok accessor
  filterable
    : index.filterable
      = (index.fields.filter fun accessor => !(accessor.type matches .array _)).map
          Accessor.field

/-- The fields that are kept are the first ones of their names, by induction from the last one. -/
theorem foldl_insert_eq_firstOfNames (accessors : List (Accessor ρ))
    : accessors.foldl insert [] = Accessor.firstOfNames accessors := by
  induction accessors using List.reverseRecOn with
  | nil => rfl
  | append_singleton accessors last ih =>
      have searched : find? (accessors.foldl insert []) last.name = find? accessors last.name :=
        find?_foldl_insert [] accessors last.name
      rw [List.foldl_concat, insert, Accessor.firstOfNames_concat, searched, ih]

/-- A name finds a field of the index exactly when it is the name of this field. -/
theorem get?_ofSchema_eq_some_iff {schema : Schema ρ} {name : String} {accessor : Accessor ρ}
    : (ofSchema schema).get? name = some accessor
      ↔ accessor ∈ (ofSchema schema).fields
        ∧ Text.lowercase accessor.name = Text.lowercase name := by
  constructor
  · intro found
    exact ⟨mem_fields_of_get? found, sameName_iff.mp (sameName_of_find? found)⟩
  · rintro ⟨among, same⟩
    exact get?_of_mem_fields among (sameName_iff.mpr same)

theorem ofSchema_represents (schema : Schema ρ) : (ofSchema schema).Represents schema where
  fields := foldl_insert_eq_firstOfNames schema.fields
  get name := by
    rw [get, get?_ofSchema]
    rfl
  found name accessor := by rw [get_eq_ok_iff, get?_ofSchema_eq_some_iff]
  anyCase accessor among name same := by
    rw [get_eq_ok_iff, get?_ofSchema_eq_some_iff]
    exact ⟨among, Text.lowercase_congr_of_sameIgnoringAsciiCase same⟩
  filterable := by
    rw [filterable, List.filter_map]
    congr 2
    funext accessor
    rw [Function.comp_apply, Accessor.type]
    cases accessor.field.type <;> rfl

end FieldIndex

/-- An index in two parts. -/
structure FieldTable (ρ : Type) where
  /-- The accessors by their names in lowercase. -/
  byName : Std.HashMap String (Accessor ρ)
  ordered : List (Accessor ρ)

namespace FieldTable

open FieldIndex (find?)

/-- Adds an accessor to both parts unless its name is taken. -/
def insert (table : FieldTable ρ) (accessor : Accessor ρ) : FieldTable ρ :=
  let key := Text.lowercase accessor.name
  if table.byName.contains key then
    table
  else
    ⟨table.byName.insert key accessor, table.ordered ++ [accessor]⟩

def ofSchema (schema : Schema ρ) : FieldTable ρ :=
  schema.fields.foldl insert ⟨∅, []⟩

/-- Both parts hold the same accessors, and they are those of a list that is searched by name. -/
structure InStep (table : FieldTable ρ) (fields : List (Accessor ρ)) : Prop where
  ordered : table.ordered = fields
  find : ∀ name, table.byName[Text.lowercase name]? = find? fields name
  mem
    : ∀ key accessor,
        table.byName[key]? = some accessor
        ↔ accessor ∈ table.ordered ∧ Text.lowercase accessor.name = key

namespace InStep

variable {table : FieldTable ρ} {fields : List (Accessor ρ)}

/-- An accessor whose name is free goes into both parts. -/
theorem push (h : table.InStep fields) {accessor : Accessor ρ}
    (free : table.byName[Text.lowercase accessor.name]? = none)
    : (FieldTable.mk (table.byName.insert (Text.lowercase accessor.name) accessor)
        (table.ordered ++ [accessor])).InStep (fields ++ [accessor]) := by
  refine ⟨?ordered, fun name => ?find, fun key other => ?mem⟩
  case ordered => rw [h.ordered]
  case find =>
    have searched : find? (fields ++ [accessor]) name
        = (find? fields name).or (find? [accessor] name) := List.find?_append
    rw [searched, ← h.find, Std.HashMap.getElem?_insert]
    -- The new name finds the accessor in both parts, any other name what it found before.
    by_cases same : Text.lowercase accessor.name = Text.lowercase name
    · have here : find? [accessor] name = some accessor :=
        List.find?_cons_of_pos (FieldIndex.sameName_iff.mpr same)
      rw [if_pos (beq_iff_eq.mpr same), ← same, free, here, Option.none_or]
    · have missed : find? [accessor] name = none :=
        List.find?_cons_of_neg fun agrees => same (FieldIndex.sameName_iff.mp agrees)
      rw [if_neg (by simpa using same), missed, Option.or_none]
  case mem =>
    rw [List.mem_append, List.mem_singleton, or_and_right, ← h.mem, Std.HashMap.getElem?_insert]
    by_cases same : Text.lowercase accessor.name = key
    · rw [if_pos (beq_iff_eq.mpr same), ← same, free, Option.some_inj]
      constructor
      · rintro rfl
        exact .inr ⟨rfl, rfl⟩
      · rintro (old | ⟨rfl, _⟩)
        · cases old
        · rfl
    · rw [if_neg (by simpa using same)]
      constructor
      · exact .inl
      · rintro (old | ⟨rfl, other⟩)
        · exact old
        · exact absurd other same

/-- An accessor goes into both parts and into the list, or into none of them. -/
theorem insert (h : table.InStep fields) (accessor : Accessor ρ)
    : (table.insert accessor).InStep (FieldIndex.insert fields accessor) := by
  have taken
      : table.byName.contains (Text.lowercase accessor.name)
        = (find? fields accessor.name).isSome := by
    rw [Std.HashMap.contains_eq_isSome_getElem?, h.find]
  rw [FieldTable.insert, FieldIndex.insert, taken]
  split
  next => exact h
  next unknown =>
    rw [Option.not_isSome_iff_eq_none, ← h.find] at unknown
    exact h.push unknown

/-- The two parts stay in step over all declarations, by list induction. -/
theorem foldl_insert (h : table.InStep fields) (accessors : List (Accessor ρ))
    : (accessors.foldl FieldTable.insert table).InStep
        (accessors.foldl FieldIndex.insert fields) := by
  induction accessors generalizing table fields with
  | nil => exact h
  | cons accessor rest ih => exact ih (h.insert accessor)

end InStep

theorem ofSchema_inStep (schema : Schema ρ)
    : (ofSchema schema).InStep (FieldIndex.ofSchema schema).fields := by
  refine InStep.foldl_insert ⟨rfl, fun name => ?_, fun key accessor => ?_⟩ schema.fields
  · rw [Std.HashMap.getElem?_empty]
    rfl
  · simp

end FieldTable

/-- An index has what the declarations of its record type ask for, and it is the same when it is
kept in two parts.
-/
theorem FieldIndex.ofSchema_faithful (schema : Schema ρ)
    : (ofSchema schema).Represents schema
      ∧ (FieldTable.ofSchema schema).InStep (ofSchema schema).fields :=
  ⟨ofSchema_represents schema, FieldTable.ofSchema_inStep schema⟩

end RecordFilter
