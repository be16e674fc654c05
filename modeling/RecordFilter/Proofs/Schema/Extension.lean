import RecordFilter.Proofs.CarryOver
import RecordFilter.Proofs.Predicate.Narrowing

/-! Schemas that are extended by further fields. A name that finds a field finds the same one
afterwards, as the first field of a name counts whatever the letter case; only names that found
nothing may find a further field.
-/

namespace RecordFilter

variable {ρ ρ' : Type}

/-- The error for a name that finds no field. -/
def Error.IsUnknownField (e : Error) : Prop :=
  ∃ name record, e = .unknownField name record

/-- The schema of wider records, which have the fields of the narrower ones and further ones after
them.
-/
def Schema.extend (schema : Schema ρ) (narrow : ρ' → ρ) (more : List (Accessor ρ'))
    : Schema ρ' where
  record := schema.record
  fields := schema.fields.map (Accessor.comap narrow) ++ more

namespace FieldIndex

theorem find?_map_comap (narrow : ρ' → ρ) (fields : List (Accessor ρ)) (name : String)
    : find? (fields.map (Accessor.comap narrow)) name
      = (find? fields name).map (Accessor.comap narrow) :=
  List.find?_map

theorem insert_map_comap (narrow : ρ' → ρ) (fields : List (Accessor ρ)) (accessor : Accessor ρ)
    : insert (fields.map (Accessor.comap narrow)) (accessor.comap narrow)
      = (insert fields accessor).map (Accessor.comap narrow) := by
  have taken
      : (find? (fields.map (Accessor.comap narrow)) (accessor.comap narrow).name).isSome
        = (find? fields accessor.name).isSome := by
    rw [find?_map_comap, Option.isSome_map]
    rfl
  rw [insert, insert, taken]
  split
  · rfl
  · rw [List.map_append, List.map_singleton]

/-- Wider records have the fields of the narrower ones under the same names, by list induction. -/
theorem foldl_insert_map_comap (narrow : ρ' → ρ) (fields accessors : List (Accessor ρ))
    : (accessors.map (Accessor.comap narrow)).foldl insert (fields.map (Accessor.comap narrow))
      = (accessors.foldl insert fields).map (Accessor.comap narrow) := by
  induction accessors generalizing fields with
  | nil => rfl
  | cons accessor rest ih =>
      rw [List.map_cons, List.foldl_cons, insert_map_comap, ih, List.foldl_cons]

/-- Declaring fields leaves those that are there in front, by list induction. -/
theorem exists_foldl_insert_eq_append (fields accessors : List (Accessor ρ))
    : ∃ added, accessors.foldl insert fields = fields ++ added := by
  induction accessors generalizing fields with
  | nil => exact ⟨[], (List.append_nil fields).symm⟩
  | cons accessor rest ih =>
      rw [List.foldl_cons, insert]
      split
      · exact ih fields
      · obtain ⟨added, declared⟩ := ih (fields ++ [accessor])
        exact ⟨accessor :: added, by rw [declared, List.append_assoc, List.singleton_append]⟩

theorem exists_fields_extend (schema : Schema ρ) (narrow : ρ' → ρ) (more : List (Accessor ρ'))
    : ∃ added,
        (ofSchema (schema.extend narrow more)).fields
        = (ofSchema schema).fields.map (Accessor.comap narrow) ++ added := by
  obtain ⟨added, declared⟩ :=
    exists_foldl_insert_eq_append ((ofSchema schema).fields.map (Accessor.comap narrow)) more
  refine ⟨added, ?_⟩
  rw [← declared, ofSchema, ofSchema, Schema.extend, List.foldl_append, ← foldl_insert_map_comap,
    List.map_nil]

/-- A name that finds a field of the schema finds it after the extension as well. -/
theorem get_extend (schema : Schema ρ) (narrow : ρ' → ρ) (more : List (Accessor ρ'))
    (name : String)
    : CarriesOver Error.IsUnknownField (Accessor.comap narrow) ((ofSchema schema).get name)
        ((ofSchema (schema.extend narrow more)).get name) := by
  obtain ⟨added, declared⟩ := exists_fields_extend schema narrow more
  have searched
      : (ofSchema (schema.extend narrow more)).get? name
        = (((ofSchema schema).get? name).map (Accessor.comap narrow)).or (find? added name) := by
    rw [get?, get?, declared, ← find?_map_comap]
    exact List.find?_append
  rw [get, get, searched]
  cases (ofSchema schema).get? name with
  | some accessor => exact .ok accessor
  | none => exact .cured ⟨name, _, rfl⟩ _

end FieldIndex

end RecordFilter
