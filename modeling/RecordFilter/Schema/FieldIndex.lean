import RecordFilter.Error
import RecordFilter.Schema.Basic

/-! The fields of a record type by name, without regard to case. Of fields that differ in case alone
the first declared one counts.
-/

namespace RecordFilter

structure FieldIndex (ρ : Type) where
  record : String
  fields : List (Accessor ρ)

namespace FieldIndex

/-- Names that agree in lowercase name the same field. -/
def sameName (left right : String) : Bool :=
  Text.lowercase left == Text.lowercase right

/-- The accessor that a name finds. -/
def find? (fields : List (Accessor ρ)) (name : String) : Option (Accessor ρ) :=
  fields.find? fun accessor => sameName accessor.name name

/-- Adds an accessor after the others unless its name is taken. -/
def insert (fields : List (Accessor ρ)) (accessor : Accessor ρ) : List (Accessor ρ) :=
  if (find? fields accessor.name).isSome then fields else fields ++ [accessor]

def ofSchema (schema : Schema ρ) : FieldIndex ρ where
  record := schema.record
  fields := schema.fields.foldl insert []

def get? (index : FieldIndex ρ) (name : String) : Option (Accessor ρ) :=
  find? index.fields name

/-- The accessor of a name, which has to be there. -/
def get (index : FieldIndex ρ) (name : String) : Except Error (Accessor ρ) :=
  match index.get? name with
  | some accessor => .ok accessor
  | none => .error (.unknownField name index.record)

end FieldIndex

end RecordFilter
