import RecordFilter.Binary64.Reader
import RecordFilter.Decimal.Conversion
import RecordFilter.Decimal.Reader
import RecordFilter.Error
import RecordFilter.Timestamp.Reader
import RecordFilter.Value.Basic

/-! Constants given in a program take the type of a field where a reasonable reading of them exists:
numbers are rounded and narrowed with a range check, and text is read without the blanks around it.
-/

namespace RecordFilter

/-- The whole number that a floating point number rounds to, if it fits. -/
def Binary64.toInt64? : Binary64 → Option Int64
  | .finite x => Integer.int64? x.nearestInt
  | _ => none

/-- The member that a text names or whose number it writes. -/
def EnumType.ofText? (type : EnumType) (text : String) : Option EnumValue :=
  let trimmed := Text.trim text
  (type.named? trimmed).or ((Integer.int64OfChars? trimmed.toList).bind type.valued?)

namespace Scalar

/-- Numbers are true unless they are zero; text is true or false in any case of its letters. -/
def toBool? : Scalar → Option Bool
  | .bool value => some value
  | .int value => some (value != 0)
  | .float value => some value.isNonzero
  | .decimal value => some !value.isZero
  | .string value =>
      let trimmed := Text.trim value
      if Text.sameIgnoringAsciiCase trimmed "true" then
        some true
      else if Text.sameIgnoringAsciiCase trimmed "false" then
        some false
      else
        none
  | _ => none

def toInt64? : Scalar → Option Int64
  | .bool value => some (if value then 1 else 0)
  | .int value => some value
  | .float value => value.toInt64?
  | .decimal value => Integer.int64? value.nearestInt
  | .string value => Integer.int64OfChars? (Text.trimChars value.toList)
  | _ => none

def toBinary64? : Scalar → Option Binary64
  | .bool value => some (Binary64.ofInt value.toNat)
  | .int value => some (Binary64.ofInt value.toInt)
  | .float value => some value
  | .decimal value => some value.toBinary64
  | .string value => Binary64.ofChars? (Text.trimChars value.toList)
  | _ => none

def toDecimal? : Scalar → Option Decimal
  | .bool value => some (Decimal.ofBool value)
  | .int value => some (Decimal.ofInt64 value)
  | .float value => Decimal.ofBinary64? value
  | .decimal value => some value
  | .string value => Decimal.ofText? value
  | _ => none

/-- Text stays as it is, and everything else is written out. -/
def toText : Scalar → String
  | .string value => value
  | .json (.string value) => value
  | value => value.text

def toTimestamp? : Scalar → Option Timestamp
  | .timestamp value => some value
  | .string value => Timestamp.ofText? value
  | _ => none

def toUuid? : Scalar → Option Uuid
  | .uuid value => some value
  | .string value => Uuid.ofChars? (Text.trimChars value.toList)
  | _ => none

/-- A member of an enumeration by its name or number. -/
def toMember? (type : EnumType) : Scalar → Option EnumValue
  | .string value => type.ofText? value
  | .int value => type.valued? value
  | _ => none

/-- The value of a type other than an array that a constant stands for. -/
def toValue? (scalar : Scalar) : FieldType → Option Value
  | .bool => scalar.toBool?.map .bool
  | .int32 => (scalar.toInt64?.bind fun n => Integer.int32? n.toInt).map .int32
  | .int64 => scalar.toInt64?.map .int64
  | .float64 => scalar.toBinary64?.map .float64
  | .decimal => scalar.toDecimal?.map .decimal
  | .string => some (.string scalar.toText)
  | .timestamp => scalar.toTimestamp?.map .timestamp
  | .uuid => scalar.toUuid?.map .uuid
  | .enum type => (scalar.toMember? type).map .enum
  | .array _ => none

/-- The constant as a value of the type; a single constant is no array. -/
def convert (scalar : Scalar) (target : FieldType) : Except Error Value :=
  match target with
  | .array _ => .error (.unsupportedValue scalar.kind target)
  | _ =>
      match scalar.toValue? target with
      | some value => .ok value
      | none => .error (.valueConversion scalar target)

end Scalar

end RecordFilter
