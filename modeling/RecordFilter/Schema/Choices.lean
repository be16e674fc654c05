import RecordFilter.Schema.FieldIndex

/-! What a filter editor offers: the fields to filter by and the operators for each of them. -/

namespace RecordFilter

/-- The operator makes sense for fields of the type. -/
def Operator.suits (op : Operator) (type : FieldType) : Bool :=
  match op.kind with
  | .null | .column | .logical => true
  | .text => type.isText
  | .comparison => !op.isOrdering || type.isOrdered

/-- The operators for a field, in the order of the catalog. -/
def Field.operators (field : Field) : List Operator :=
  Operator.all.filter fun op => op.suits field.type

/-- The fields to filter by, in the order of their declaration. -/
def FieldIndex.filterable (index : FieldIndex ρ) : List Field :=
  (index.fields.map Accessor.field).filter fun field => field.type.isFilterable

end RecordFilter
