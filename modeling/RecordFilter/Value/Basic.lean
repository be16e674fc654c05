import RecordFilter.Binary64.Basic
import RecordFilter.Decimal.Basic
import RecordFilter.FieldType
import RecordFilter.Timestamp.Basic
import RecordFilter.Uuid

/-! The values that fields hold, with their equality and their partial order. -/

namespace RecordFilter

inductive Value where
  | null
  | bool (value : Bool)
  | int32 (value : Int32)
  | int64 (value : Int64)
  | float64 (value : Binary64)
  | decimal (value : Decimal)
  | string (value : String)
  | timestamp (value : Timestamp)
  | uuid (value : Uuid)
  | enum (value : EnumValue)
  | array (items : List Value)

namespace Value

def isNull : Value → Bool
  | .null => true
  | _ => false

/-- The kind of a value, as messages call it. -/
def kind : Value → String
  | .null => "null"
  | .bool _ => "bool"
  | .int32 _ => "int32"
  | .int64 _ => "int64"
  | .float64 _ => "float64"
  | .decimal _ => "decimal"
  | .string _ => "string"
  | .timestamp _ => "datetime"
  | .uuid _ => "uuid"
  | .enum _ => "enum"
  | .array _ => "array"

def string? : Value → Option String
  | .string value => some value
  | _ => none

mutual

/-- Equality of values of one kind. Numbers are equal by value, so that what is not a number equals
nothing, and null equals only null.
-/
def equals : Value → Value → Bool
  | .null, .null => true
  | .bool x, .bool y => x == y
  | .int32 x, .int32 y => x == y
  | .int64 x, .int64 y => x == y
  | .float64 x, .float64 y => x.equals y
  | .decimal x, .decimal y => x.equals y
  | .string x, .string y => x == y
  | .timestamp x, .timestamp y => x == y
  | .uuid x, .uuid y => x == y
  | .enum x, .enum y => x.equals y
  | .array xs, .array ys => equalItems xs ys
  | _, _ => false

def equalItems : List Value → List Value → Bool
  | [], [] => true
  | x :: xs, y :: ys => x.equals y && equalItems xs ys
  | _, _ => false

end

/-- The order of two values of one kind; there is none for nulls, arrays and what is not a number,
nor between enumerations of different names.
-/
def compare? : Value → Value → Option Ordering
  | .bool x, .bool y => some (compare x.toNat y.toNat)
  | .int32 x, .int32 y => some (compare x.toInt y.toInt)
  | .int64 x, .int64 y => some (compare x.toInt y.toInt)
  | .float64 x, .float64 y => x.compare? y
  | .decimal x, .decimal y => some (x.compare y)
  | .string x, .string y => some (compare x y)
  | .timestamp x, .timestamp y => some (x.compare y)
  | .uuid x, .uuid y => some (x.compare y)
  | .enum x, .enum y =>
      if x.type.same y.type then some (compare x.value.toInt y.value.toInt) else none
  | _, _ => none

end Value

end RecordFilter
