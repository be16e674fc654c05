import RecordFilter.Json.Basic
import RecordFilter.Json.NumberObject

/-! Reading JSON text. A value is read as it is written, with repeated members in their order. -/

namespace RecordFilter.Json

/-- Arrays and objects may be nested this deep. -/
def nestingLimit : Nat := 127

mutual

/-- A value after the space before it. `depth` counts the containers that may still be opened. -/
def readValue (depth : Nat) : Nat → List Char → Except Fault (Json × List Char)
  | 0, cs => .error (.before .endInValue cs)
  | fuel + 1, cs =>
      match skipSpace cs with
      | [] => .error (.before .endInValue [])
      | 'n' :: rest => return (.null, ← scanWord ['u', 'l', 'l'] rest)
      | 't' :: rest => return (.bool true, ← scanWord ['r', 'u', 'e'] rest)
      | 'f' :: rest => return (.bool false, ← scanWord ['a', 'l', 's', 'e'] rest)
      | '"' :: rest => do
          let (text, rest) ← scanString rest
          return (.string text, rest)
      | '[' :: rest =>
          match depth with
          | 0 => .error (.next .nestedTooDeep ('[' :: rest))
          | depth + 1 => do
              let (items, rest) ← readItems depth fuel true rest
              return (.array items, rest)
      | '{' :: rest =>
          match depth with
          | 0 => .error (.next .nestedTooDeep ('{' :: rest))
          | depth + 1 =>
              match afterNumberName? rest with
              | some rest => do
                  let (digits, rest) ← readNumberObject rest
                  return (.number (String.ofList digits), rest)
              | none => do
                  let (members, rest) ← readMembers depth fuel true rest
                  return (.object members, rest)
      | c :: rest =>
          if c = '-' || Text.isDigit c then do
            let (digits, rest) ← scanNumber (c :: rest)
            return (.number (String.ofList digits), rest)
          else
            .error (.next .expectedValue (c :: rest))

/-- The items of a list and its end. -/
def readItems (depth : Nat) : Nat → Bool → List Char → Except Fault (List Json × List Char)
  | 0, _, cs => .error (.before .endInList cs)
  | fuel + 1, first, cs => do
      match ← nextItem? first cs with
      | none => return ([], (skipSpace cs).drop 1)
      | some next =>
          let (item, rest) ← readValue depth fuel next
          let (items, rest) ← readItems depth fuel false rest
          return (item :: items, rest)

/-- The members of an object and its end. -/
def readMembers (depth : Nat) (fuel : Nat) (first : Bool) (cs : List Char)
    : Except Fault (List (String × Json) × List Char) :=
  match fuel with
  | 0 => .error (.before .endInObject cs)
  | fuel + 1 => do
      match ← nextMember? first cs with
      | none => return ([], (skipSpace cs).drop 1)
      | some next =>
          let (name, rest) ← scanString next
          let (value, rest) ← readValue depth fuel (← afterColon rest)
          let (members, rest) ← readMembers depth fuel false rest
          return ((name, value) :: members, rest)

end

/-- Reading an item takes two steps, one of which takes a character. -/
def readFuel (cs : List Char) : Nat :=
  2 * cs.length + 2

/-- The value at the start of a text and the characters after it. -/
def leading (text : String) : Except SyntaxError (Json × List Char) :=
  let cs := text.toList
  (readValue nestingLimit (readFuel cs) cs).mapError (·.inText cs)

/-- Only space may follow the value of a text. -/
def checkEnd (text : String) (rest : List Char) : Except SyntaxError Unit :=
  match skipSpace rest with
  | [] => .ok ()
  | next => .error ((Fault.next .trailingCharacters next).inText text.toList)

/-- The value that a text writes, with its members as they are written. -/
def parseWritten (text : String) : Except SyntaxError Json := do
  let (value, rest) ← leading text
  checkEnd text rest
  return value

/-- The value of a text in canonical form. -/
def parse (text : String) : Except SyntaxError Json :=
  (parseWritten text).map canonical

end RecordFilter.Json
