import RecordFilter.Text.Lowercase

/-! The types that fields of a record are declared with. -/

namespace RecordFilter

/-- A list of named numbers; two enumerations of one name count as the same. -/
structure EnumType where
  name : String
  members : List (String × Int64)

/-- A number of an enumeration, which need not be among its members. -/
structure EnumValue where
  type : EnumType
  value : Int64

namespace EnumType

def same (left right : EnumType) : Bool :=
  left.name == right.name

/-- The member of a name, with the case of the letters A to Z left aside. -/
def named? (type : EnumType) (name : String) : Option EnumValue :=
  (type.members.find? fun member => Text.sameIgnoringAsciiCase member.1 name).map fun member =>
    ⟨type, member.2⟩

/-- The member of a number. -/
def valued? (type : EnumType) (value : Int64) : Option EnumValue :=
  if type.members.any fun member => member.2 == value then some ⟨type, value⟩ else none

end EnumType

namespace EnumValue

/-- The name of the first member with this number. -/
def name? (v : EnumValue) : Option String :=
  (v.type.members.find? fun member => member.2 == v.value).map Prod.fst

def equals (left right : EnumValue) : Bool :=
  left.type.same right.type && left.value == right.value

end EnumValue

inductive FieldType where
  | bool
  | int32
  | int64
  | float64
  | decimal
  | string
  | timestamp
  | uuid
  | enum (type : EnumType)
  | array (element : FieldType)

namespace FieldType

/-- Equality of types, where enumerations go by their names. -/
def same : FieldType → FieldType → Bool
  | .bool, .bool => true
  | .int32, .int32 => true
  | .int64, .int64 => true
  | .float64, .float64 => true
  | .decimal, .decimal => true
  | .string, .string => true
  | .timestamp, .timestamp => true
  | .uuid, .uuid => true
  | .enum left, .enum right => left.same right
  | .array left, .array right => left.same right
  | _, _ => false

/-- Types whose fields can be asked for greater and less. -/
def isOrdered : FieldType → Bool
  | .int32 | .int64 | .float64 | .decimal | .timestamp | .enum _ => true
  | _ => false

def isText : FieldType → Bool
  | .string => true
  | _ => false

/-- Types whose fields are offered for filtering. -/
def isFilterable : FieldType → Bool
  | .array _ => false
  | _ => true

def text : FieldType → String
  | .bool => "bool"
  | .int32 => "int32"
  | .int64 => "int64"
  | .float64 => "float64"
  | .decimal => "decimal"
  | .string => "string"
  | .timestamp => "datetime"
  | .uuid => "uuid"
  | .enum type => "enum " ++ type.name
  | .array element => "array<" ++ element.text ++ ">"

end FieldType

/-- The declaration of a field. -/
structure Field where
  name : String
  type : FieldType
  nullable : Bool

end RecordFilter
