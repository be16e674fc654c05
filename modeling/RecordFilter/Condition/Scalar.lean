import RecordFilter.Binary64.Printer
import RecordFilter.Decimal.Basic
import RecordFilter.Diagnostic
import RecordFilter.Json.Printer
import RecordFilter.Text.Quoted
import RecordFilter.Timestamp.Printer
import RecordFilter.Uuid

/-! Constants of conditions, before they take the type of a field. -/

namespace RecordFilter

inductive Scalar where
  | bool (value : Bool)
  | int (value : Int64)
  | float (value : Binary64)
  | decimal (value : Decimal)
  | string (value : String)
  | timestamp (value : Timestamp)
  | uuid (value : Uuid)
  /-- A value as it stands in a document. -/
  | json (value : Json)

namespace Scalar

/-- The kind of a constant, as messages call it. -/
def kind : Scalar → String
  | .bool _ => "bool"
  | .int _ => "int"
  | .float _ => "float"
  | .decimal _ => "decimal"
  | .string _ => "string"
  | .timestamp _ => "datetime"
  | .uuid _ => "uuid"
  | .json value => value.kind

/-- The text of a constant in messages. -/
def text : Scalar → String
  | .bool value => Diagnostic.bool value
  | .int value => toString value.toInt
  | .float value => value.text
  | .decimal value => value.text
  | .string value => Text.quote value
  | .timestamp value => value.text
  | .uuid value => value.text
  | .json value => value.text

/-- Equality of constants of one kind; a value from a document never equals another constant. -/
def equals : Scalar → Scalar → Bool
  | .bool x, .bool y => x == y
  | .int x, .int y => x == y
  | .float x, .float y => x.equals y
  | .decimal x, .decimal y => x.equals y
  | .string x, .string y => x == y
  | .timestamp x, .timestamp y => x == y
  | .uuid x, .uuid y => x == y
  | .json x, .json y => x.equals y
  | _, _ => false

end Scalar

/-- The right side of a condition. -/
inductive Operand where
  | null
  | single (value : Scalar)
  | array (items : List Scalar)
  /-- The name of the field to compare with. -/
  | column (name : String)
  | pattern (text : String)

namespace Operand

/-- The operand is a list, be it of constants or as it stands in a document. -/
def isCollection : Operand → Bool
  | .array _ => true
  | .single (.json (.array _)) => true
  | _ => false

def kind : Operand → String
  | .null => "null"
  | .single value => value.kind
  | .array _ => "array"
  | .column _ => "column"
  | .pattern _ => "pattern"

def equals : Operand → Operand → Bool
  | .null, .null => true
  | .single x, .single y => x.equals y
  | .array xs, .array ys => equalItems xs ys
  | .column x, .column y => x == y
  | .pattern x, .pattern y => x == y
  | _, _ => false
where
  equalItems : List Scalar → List Scalar → Bool
    | [], [] => true
    | x :: xs, y :: ys => x.equals y && equalItems xs ys
    | _, _ => false

end Operand

end RecordFilter
