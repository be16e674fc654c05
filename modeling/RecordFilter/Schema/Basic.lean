import RecordFilter.Value.Text

/-! Record types by their fields, each with a reader of its value. -/

namespace RecordFilter

/-- A field together with the way its value is read off a record. -/
structure Accessor (ρ : Type) where
  field : Field
  read : ρ → Value

namespace Accessor

def name (accessor : Accessor ρ) : String :=
  accessor.field.name

def type (accessor : Accessor ρ) : FieldType :=
  accessor.field.type

def diagnostic (accessor : Accessor ρ) : String :=
  Diagnostic.record "FieldAccessor" [
    ("name", Text.quote accessor.name),
    ("field_type", accessor.type.diagnostic),
    ("nullable", Diagnostic.bool accessor.field.nullable)
  ]

end Accessor

/-- A named record type with its fields as they are declared. -/
structure Schema (ρ : Type) where
  record : String
  fields : List (Accessor ρ)

end RecordFilter
