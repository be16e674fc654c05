import RecordFilter.Matrix.Basic

/-! Matrices as JSON documents. A node is an object with its operator as the only key, and an empty
node is the empty object.
-/

namespace RecordFilter

/-- A constant as it is written in a document; numbers without a text have no place there. -/
def Scalar.toJson : Scalar → Except Error Json
  | .bool value => .ok (.bool value)
  | .int value => .ok (.number (toString value.toInt))
  | .float (.finite x) => .ok (.number x.jsonText)
  | .float value => .error (.serialization (.notFinite value))
  | .decimal value => .ok (.number value.text)
  | .string value => .ok (.string value)
  | .timestamp value => .ok (.string value.text)
  | .uuid value => .ok (.string value.text)
  | .json value => .ok value

/-- The operand of a condition; a check for null is written as true whatever its operand. -/
def Condition.payload (condition : Condition) : Except Error Json :=
  match condition.operand with
  | .column name => .ok (.array [.string name])
  | operand =>
      if condition.operator.isNullCheck then
        .ok (.bool true)
      else
        match operand with
        | .single value => value.toJson
        | .array items => do return .array (← items.mapM Scalar.toJson)
        | .pattern text => .ok (.string text)
        | _ => .ok .null

/-- A condition is an object from its field to an object from its operator to its operand. -/
def Condition.toJson (condition : Condition) : Except Error Json := do
  let payload ← condition.payload
  return .object [(condition.field, .object [(condition.operator.code, payload)])]

namespace Matrix

/-- The document of a node with so many levels left to it, its own included. -/
def toJsonWithin (limit : Nat) : Nat → Matrix → Except Error Json
  | 0, _ => .error (.depthExceeded limit)
  | levels + 1, m =>
      if m.isEmpty then
        .ok (.object [])
      else do
        let conditions ← m.conditions.mapM Condition.toJson
        let nested ← m.nested.mapM (toJsonWithin limit levels)
        return .object [(m.operator.code, .array (conditions ++ nested))]

/-- The document of a matrix with no more levels than the limit. -/
def toJson (m : Matrix) (limit : Nat) : Except Error Json :=
  toJsonWithin limit limit m

/-- The indented text of the document. -/
def toJsonText (m : Matrix) (limit : Nat) : Except Error String :=
  (m.toJson limit).map Json.indentedText

end Matrix

end RecordFilter
