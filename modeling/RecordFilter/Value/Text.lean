import RecordFilter.Binary64.Printer
import RecordFilter.Diagnostic
import RecordFilter.Text.Quoted
import RecordFilter.Timestamp.Printer
import RecordFilter.Value.Basic

/-! The text of a value, as predicates show it, and its diagnostic text, which names its kind. -/

namespace RecordFilter

/-- A member by its names; a number without one in parentheses. -/
def EnumValue.text (v : EnumValue) : String :=
  match v.name? with
  | some name => v.type.name ++ "." ++ name
  | none => v.type.name ++ "(" ++ toString v.value.toInt ++ ")"

def EnumType.diagnostic (type : EnumType) : String :=
  Diagnostic.record "EnumType" [
    ("name", Text.quote type.name),
    (
      "members",
      Diagnostic.list
        (type.members.map fun member =>
          "(" ++ Text.quote member.1 ++ ", " ++ toString member.2.toInt ++ ")")
    )
  ]

def EnumValue.diagnostic (v : EnumValue) : String :=
  Diagnostic.record "EnumValue" [
    ("ty", v.type.diagnostic),
    ("value", toString v.value.toInt)
  ]

def FieldType.diagnostic : FieldType → String
  | .bool => "Bool"
  | .int32 => "Int32"
  | .int64 => "Int64"
  | .float64 => "Float64"
  | .decimal => "Decimal"
  | .string => "String"
  | .timestamp => "DateTime"
  | .uuid => "Uuid"
  | .enum type => Diagnostic.application "Enum" [type.diagnostic]
  | .array element => Diagnostic.application "Array" [element.diagnostic]

namespace Value

mutual

def text : Value → String
  | .null => "null"
  | .bool value => Diagnostic.bool value
  | .int32 value => toString value.toInt
  | .int64 value => toString value.toInt
  | .float64 value => value.text
  | .decimal value => value.text
  | .string value => Text.quote value
  | .timestamp value => value.text
  | .uuid value => value.text
  | .enum value => value.text
  | .array items => Diagnostic.list (texts items)

def texts : List Value → List String
  | [] => []
  | item :: rest => item.text :: texts rest

end

mutual

def diagnostic : Value → String
  | .null => "Null"
  | .bool value => Diagnostic.application "Bool" [Diagnostic.bool value]
  | .int32 value => Diagnostic.application "Int32" [toString value.toInt]
  | .int64 value => Diagnostic.application "Int64" [toString value.toInt]
  | .float64 value => Diagnostic.application "Float64" [value.explicitText]
  | .decimal value => Diagnostic.application "Decimal" [value.text]
  | .string value => Diagnostic.application "String" [Text.quote value]
  | .timestamp value => Diagnostic.application "DateTime" [value.text]
  | .uuid value => Diagnostic.application "Uuid" [value.text]
  | .enum value => Diagnostic.application "Enum" [value.diagnostic]
  | .array items => Diagnostic.application "Array" [Diagnostic.list (diagnostics items)]

def diagnostics : List Value → List String
  | [] => []
  | item :: rest => item.diagnostic :: diagnostics rest

end

end Value

end RecordFilter
