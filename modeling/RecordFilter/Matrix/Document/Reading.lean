import RecordFilter.Json.Parser
import RecordFilter.Matrix.Basic

/-! Matrices from JSON documents. An element is a node when it is empty or its only key is a logical
operator, and a condition otherwise.
-/

namespace RecordFilter

/-- A fault of the document. -/
def reject (fault : DocumentFault) : Except Error α :=
  .error (.serialization fault)

/-- The operand that a payload stands for; texts are patterns for the operators on text. -/
def Operand.ofPayload (op : Operator) : Json → Except Error Operand
  | .null => .ok .null
  | .array items => .ok (.array (items.map Scalar.json))
  | .object _ => reject (.objectValue op)
  | .string text => .ok (if op.isText then .pattern text else .single (.json (.string text)))
  | payload => .ok (.single (.json payload))

/-- The condition of a field, the code of its operator and the payload. -/
def Condition.ofEntry (field code : String) (payload : Json) : Except Error Condition := do
  let op ← Operator.resolve code
  if op.isColumn then
    match payload with
    | .array [.string other] => Condition.column field op other
    | _ => reject (.notColumnName code)
  else if op.isNullCheck then
    match payload with
    | .bool true => Condition.make field op .null
    | _ => reject (.notNullCheck code field payload)
  else
    Condition.make field op (← Operand.ofPayload op payload)

/-- The condition of an element with these members. -/
def Condition.ofMembers (members : List (String × Json)) : Except Error Condition :=
  match members with
  | [(field, .object [(code, payload)])] => Condition.ofEntry field code payload
  | [(field, .object _)] => reject (.notOneOperator field)
  | [(field, _)] => reject (.notFieldTest field)
  | _ => reject .notOneField

namespace Matrix

/-- Elements with these members are nodes. -/
def isNode (members : List (String × Json)) : Bool :=
  match members with
  | [] => true
  | [(code, _)] => (Operator.ofCode? code).any Operator.isLogical
  | _ => false

/-- The parts of a node in the order of its elements, where `read` reads the nodes among them. -/
def readElements (read : Json → Except Error Matrix)
    : List Json → Except Error (List Condition × List Matrix)
  | [] => .ok ([], [])
  | .object members :: rest =>
      if isNode members then do
        let m ← read (.object members)
        let (conditions, nested) ← readElements read rest
        return (conditions, m :: nested)
      else do
        let condition ← Condition.ofMembers members
        let (conditions, nested) ← readElements read rest
        return (condition :: conditions, nested)
  | element :: _ => reject (.notElement element)

/-- The matrix of a document with so many levels left to it, its own included. -/
def ofJsonWithin (limit : Nat) : Nat → Json → Except Error Matrix
  | 0, _ => .error (.depthExceeded limit)
  | levels + 1, json =>
      match json with
      | .object [] => .ok empty
      | .object [(code, operands)] => do
          let op ← LogicalOperator.resolve code
          match operands with
          | .array elements =>
              let (conditions, nested) ← readElements (ofJsonWithin limit levels) elements
              return node op conditions nested
          | _ => reject (.notOperands code)
      | .object _ => reject .notOneKey
      | _ => reject (.notMatrix json)

/-- The matrix of a document with no more levels than the limit. -/
def ofJson (json : Json) (limit : Nat) : Except Error Matrix :=
  ofJsonWithin limit limit json

/-- The matrix of the text of a document. -/
def ofJsonText (text : String) (limit : Nat) : Except Error Matrix :=
  if Text.isBlankText text then
    reject .blankText
  else
    match Json.parse text with
    | .ok json => ofJson json limit
    | .error error => reject (.malformed error)

end Matrix

end RecordFilter
