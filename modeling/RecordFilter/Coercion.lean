import RecordFilter.Coercion.Document

/-! Operands of conditions as values of the type of a field. -/

namespace RecordFilter

/-- A constant as a value of the type; those from documents keep to the stricter rules. -/
def Scalar.coerce (scalar : Scalar) (target : FieldType) : Except Error Value :=
  match scalar with
  | .json value => value.convert target
  | _ => scalar.convert target

/-- An operand as a value of the type. -/
def Operand.coerce (operand : Operand) (target : FieldType) : Except Error Value :=
  match operand with
  | .null => .ok .null
  | .single value => value.coerce target
  | .pattern text => (Scalar.string text).convert target
  | .array items =>
      match target with
      | .array element => do return .array (← items.mapM fun item => item.coerce element)
      | _ => .error (.unsupportedValue operand.kind target)
  | .column _ => .error (.unsupportedValue operand.kind target)

end RecordFilter
