import RecordFilter.Json.Mismatch
import RecordFilter.Json.Punctuation

/-! Objects that stand for numbers. The first member has a reserved name, its value is the text of
the number, and there is no other member.
-/

namespace RecordFilter.Json

open RecordFilter.Text

/-- The name that makes an object stand for a number when its first member has it. -/
def numberName : String := "$serde_json::private::Number"

/-- The text after the reserved name, if the first member has it. -/
def afterNumberName? (cs : List Char) : Option (List Char) :=
  match skipSpace cs with
  | '"' :: rest =>
      match scanString rest with
      | .ok (name, rest) => if name = numberName then some rest else none
      | .error _ => none
  | _ => none

/-- Signs and exponent marks take the byte after them, whatever it is. -/
def takesNext (c : Char) : Bool :=
  c == '-' || c == '+' || c == 'e' || c == 'E'

/-- The fault of contents that are no number: the first byte that is left where their reading
stopped, or the given fault if none is.
-/
def contentsFault (cs : List Char) (fault : Fault) : Fault :=
  let before := cs.take (cs.length - fault.rest.length)
  let taken := if before.getLast?.any takesNext then 1 else 0
  if taken < byteCount fault.rest then
    { cause := .invalidNumber, rest := fault.rest, bytes := taken + 1 }
  else
    fault

/-- The number that a text holds by itself, without space around it. -/
def numberOfContents (cs : List Char) : Except Fault (List Char) :=
  match cs with
  | [] => .error (.before .endInValue [])
  | c :: _ =>
      if c = '-' || isDigit c then
        match scanNumber cs with
        | .ok (digits, []) => .ok digits
        | .ok (_, rest) => .error (.next .invalidNumber rest)
        | .error fault => .error (contentsFault cs fault)
      else
        .error (.next .invalidNumber cs)

/-- The number of an object after the reserved name, and the text after the object. -/
def readNumberObject (cs : List Char) : Except Fault (List Char × List Char) := do
  match skipSpace (← afterColon cs) with
  | '"' :: rest =>
      let (text, rest) ← scanString rest
      let digits ← (numberOfContents text.toList).mapError (·.inContents text.toList)
      return (digits, ← endOfObject rest)
  | rest => .error (mismatch "string containing a number" rest)

end RecordFilter.Json
