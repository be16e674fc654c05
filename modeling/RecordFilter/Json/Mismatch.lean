import RecordFilter.Integer
import RecordFilter.Json.Scanner
import RecordFilter.Text.Quoted

/-! Values of another type than the one expected. A scalar is read before its type is reported; of a
container the first mark is enough.
-/

namespace RecordFilter.Json

/-- The words for a number, given its text. -/
def numberKind (text : List Char) : String :=
  let isNegative := text.head? == some '-'
  match Integer.ofChars? text with
  | some n =>
      if isNegative && (n = 0 || n < Int64.minValue.toInt) || UInt64.size ≤ n then
        "number"
      else
        "integer `" ++ toString n ++ "`"
  | none => "number"

/-- The words for the type of the value that comes next, and the text at which it is known. -/
def nextKind (cs : List Char) : Except Fault (String × List Char) :=
  match cs with
  | [] => .error (.before .endInValue [])
  | 'n' :: rest => return ("null", ← scanWord ['u', 'l', 'l'] rest)
  | 't' :: rest => return ("boolean `true`", ← scanWord ['r', 'u', 'e'] rest)
  | 'f' :: rest => return ("boolean `false`", ← scanWord ['a', 'l', 's', 'e'] rest)
  | '"' :: rest => do
      let (text, rest) ← scanString rest
      return ("string " ++ Text.quote text, rest)
  | '[' :: _ => .ok ("sequence", cs)
  | '{' :: _ => .ok ("map", cs)
  | c :: _ =>
      if c = '-' || Text.isDigit c then do
        let (digits, rest) ← scanNumber cs
        return (numberKind digits, rest)
      else
        .error (.next .expectedValue cs)

/-- The fault of a value that is not of the expected type; a scalar may be malformed instead. -/
def mismatch (expected : String) (cs : List Char) : Fault :=
  match nextKind cs with
  | .ok (found, rest) => .before (.wrongType found expected) rest
  | .error fault => fault

end RecordFilter.Json
