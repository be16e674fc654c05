import RecordFilter.Coercion.Native

/-! Constants of documents take the type of a field only as they are: text is no number, and a
number that is to be whole has no fraction.
-/

namespace RecordFilter.Json

/-- The whole number that the text of a number writes, also with a point or an exponent. -/
def wholeNumber? (text : String) : Option Int64 :=
  (Integer.int64OfChars? text.toList).or <|
    ((Decimal.ofText? text).bind Decimal.wholeInt?).bind Integer.int64?

/-- The floating point number nearest to a number, unless that is beyond the range. -/
def finiteNumber? (text : String) : Option Binary64 :=
  (Binary64.ofChars? text.toList).filter Binary64.isFinite

/-- The value of a type other than an array that a JSON value stands for. -/
def toValue? : Json → FieldType → Option Value
  | .bool value, .bool => some (.bool value)
  | .number text, .int32 =>
      ((wholeNumber? text).bind fun n => Integer.int32? n.toInt).map .int32
  | .number text, .int64 => (wholeNumber? text).map .int64
  | .number text, .float64 => (finiteNumber? text).map .float64
  | .number text, .decimal => (Decimal.ofText? text).map .decimal
  | .number text, .enum type =>
      ((Integer.int64OfChars? text.toList).bind type.valued?).map .enum
  | .string text, .string => some (.string text)
  | .string text, .timestamp => (Timestamp.ofText? text).map .timestamp
  | .string text, .uuid => (Uuid.ofChars? text.toList).map .uuid
  | .string text, .enum type => (type.ofText? text).map .enum
  | _, _ => none

/-- A value that is neither null nor an array, for a type that is no array either. -/
def convertScalar (json : Json) (target : FieldType) : Except Error Value :=
  match json.toValue? target with
  | some value => .ok value
  | none => .error (.valueConversion (.json json) target)

mutual

/-- The JSON value as a value of the type: null for every type, arrays item by item. -/
def convert (target : FieldType) : Json → Except Error Value
  | .null => .ok .null
  | .array items =>
      match target with
      | .array element => do return .array (← convertItems element items)
      | _ => .error (.unsupportedValue (kind (.array items)) target)
  | .object members => .error (.unsupportedValue (kind (.object members)) target)
  | .bool value => convertSingle target (.bool value)
  | .number text => convertSingle target (.number text)
  | .string text => convertSingle target (.string text)

def convertItems (element : FieldType) : List Json → Except Error (List Value)
  | [] => .ok []
  | item :: rest => do
      let value ← convert element item
      return value :: (← convertItems element rest)

/-- A single value is no array. -/
def convertSingle (target : FieldType) (json : Json) : Except Error Value :=
  match target with
  | .array _ => .error (.unsupportedValue json.kind target)
  | _ => convertScalar json target

end

end RecordFilter.Json
