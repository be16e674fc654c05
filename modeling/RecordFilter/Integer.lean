import RecordFilter.Text.Digits

/-! Whole numbers of 32 and 64 bits: reading them from text and narrowing with a range check. -/

namespace RecordFilter.Integer

open RecordFilter.Text

/-- Digits with a plus or minus sign in front of them or none. -/
def ofChars? (cs : List Char) : Option Int :=
  match cs with
  | '-' :: rest => (natural? rest).map fun n => -(n : Int)
  | '+' :: rest => (natural? rest).map fun n => (n : Int)
  | _ => (natural? cs).map fun n => (n : Int)

/-- The 64-bit integer of this value, if there is one. -/
def int64? (n : Int) : Option Int64 :=
  if Int64.minValue.toInt ≤ n && n ≤ Int64.maxValue.toInt then some (Int64.ofInt n) else none

/-- The 32-bit integer of this value, if there is one. -/
def int32? (n : Int) : Option Int32 :=
  if Int32.minValue.toInt ≤ n && n ≤ Int32.maxValue.toInt then some (Int32.ofInt n) else none

/-- The 64-bit integer that the characters write. -/
def int64OfChars? (cs : List Char) : Option Int64 :=
  (ofChars? cs).bind int64?

end RecordFilter.Integer
