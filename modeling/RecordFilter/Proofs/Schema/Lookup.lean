import Mathlib.Data.List.Basic
import RecordFilter.Schema.FieldIndex

/-! Which field a name finds. The fields of an index have names that differ, and a name finds in the
index what it finds first among the declarations.
-/

namespace RecordFilter.FieldIndex

variable {ρ : Type}

theorem sameName_iff {left right : String}
    : sameName left right = true ↔ Text.lowercase left = Text.lowercase right :=
  beq_iff_eq

theorem sameName_refl (name : String) : sameName name name = true :=
  sameName_iff.mpr rfl

/-- Names that agree find the same field. -/
theorem find?_congr {name other : String} (same : sameName name other = true)
    (fields : List (Accessor ρ))
    : find? fields name = find? fields other := by
  unfold find? sameName
  rw [sameName_iff.mp same]

theorem sameName_of_find? {fields : List (Accessor ρ)} {name : String} {accessor : Accessor ρ}
    (found : find? fields name = some accessor)
    : sameName accessor.name name = true := by
  have agrees := List.find?_some found
  exact agrees

theorem mem_fields_of_get? {index : FieldIndex ρ} {name : String} {accessor : Accessor ρ}
    (found : index.get? name = some accessor)
    : accessor ∈ index.fields :=
  List.mem_of_find?_eq_some found

theorem get_eq_ok_iff {index : FieldIndex ρ} {name : String} {accessor : Accessor ρ}
    : index.get name = .ok accessor ↔ index.get? name = some accessor := by
  unfold get
  cases index.get? name <;> simp

/-- A field that is added is found by the names that found none before. -/
theorem find?_insert (fields : List (Accessor ρ)) (accessor : Accessor ρ) (name : String)
    : find? (insert fields accessor) name
      = (find? fields name).or (find? [accessor] name) := by
  unfold insert
  split
  next taken =>
    cases agrees : sameName accessor.name name with
    | false =>
        have missed : find? [accessor] name = none := by simp [find?, agrees]
        rw [missed, Option.or_none]
    | true =>
        rw [find?_congr agrees fields, Option.isSome_iff_exists] at taken
        obtain ⟨found, first⟩ := taken
        rw [first, Option.some_or]
  next => exact List.find?_append

/-- After further declarations a name finds what it found before or what it finds first among them,
by list induction.
-/
theorem find?_foldl_insert (fields accessors : List (Accessor ρ)) (name : String)
    : find? (accessors.foldl insert fields) name
      = (find? fields name).or (find? accessors name) := by
  induction accessors generalizing fields with
  | nil => exact (Option.or_none ..).symm
  | cons accessor rest ih =>
      have first : find? (accessor :: rest) name
          = (find? [accessor] name).or (find? rest name) :=
        @List.find?_append _ _ [accessor] rest
      rw [List.foldl_cons, ih, find?_insert, Option.or_assoc, first]

/-- A name finds in the index the first declared field of this name. -/
theorem get?_ofSchema (schema : Schema ρ) (name : String)
    : (ofSchema schema).get? name = find? schema.fields name := by
  rw [get?, ofSchema, find?_foldl_insert]
  rfl

/-- Each name that is declared finds a field. -/
theorem exists_get?_of_mem {schema : Schema ρ} {accessor : Accessor ρ} {name : String}
    (declared : accessor ∈ schema.fields) (same : sameName accessor.name name = true)
    : ∃ found, (ofSchema schema).get? name = some found := by
  rw [get?_ofSchema, ← Option.isSome_iff_exists, find?, List.find?_isSome]
  exact ⟨accessor, declared, same⟩

/-- The names of the fields differ from each other. -/
def Distinct (fields : List (Accessor ρ)) : Prop :=
  fields.Pairwise fun left right => sameName left.name right.name = false

theorem Distinct.insert {fields : List (Accessor ρ)} (h : Distinct fields)
    (accessor : Accessor ρ)
    : Distinct (insert fields accessor) := by
  unfold FieldIndex.insert
  split
  next => exact h
  next free =>
    refine List.pairwise_append.mpr ⟨h, List.pairwise_singleton _ _, ?_⟩
    intro left among right last
    rw [List.mem_singleton.mp last]
    rw [Option.not_isSome_iff_eq_none, find?, List.find?_eq_none] at free
    exact Bool.eq_false_iff.mpr (free left among)

theorem Distinct.foldl_insert {fields : List (Accessor ρ)} (h : Distinct fields)
    (accessors : List (Accessor ρ))
    : Distinct (accessors.foldl FieldIndex.insert fields) := by
  induction accessors generalizing fields with
  | nil => exact h
  | cons accessor rest ih => exact ih (h.insert accessor)

/-- Where names differ a field is found by the names that agree with its own, by list induction. -/
theorem Distinct.find?_of_mem {fields : List (Accessor ρ)} (h : Distinct fields)
    {accessor : Accessor ρ} {name : String} (among : accessor ∈ fields)
    (same : sameName accessor.name name = true)
    : find? fields name = some accessor := by
  induction fields with
  | nil => cases among
  | cons first rest ih =>
      obtain ⟨differs, restDistinct⟩ := List.pairwise_cons.mp h
      rcases List.mem_cons.mp among with rfl | later
      · exact List.find?_cons_of_pos same
      · have missed : ¬sameName first.name name = true := by
          intro agrees
          have clash : sameName first.name accessor.name = true :=
            sameName_iff.mpr ((sameName_iff.mp agrees).trans (sameName_iff.mp same).symm)
          rw [differs accessor later] at clash
          cases clash
        have searched : find? (first :: rest) name = find? rest name :=
          List.find?_cons_of_neg missed
        rw [searched]
        exact ih restDistinct later

/-- A field of the index is found by its own name, whatever the letter case. -/
theorem get?_of_mem_fields {schema : Schema ρ} {accessor : Accessor ρ} {name : String}
    (among : accessor ∈ (ofSchema schema).fields) (same : sameName accessor.name name = true)
    : (ofSchema schema).get? name = some accessor :=
  (Distinct.foldl_insert List.Pairwise.nil schema.fields).find?_of_mem among same

end RecordFilter.FieldIndex
