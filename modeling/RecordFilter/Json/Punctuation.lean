import RecordFilter.Json.Scanner

/-! The marks between the values of a JSON text: what may come before an item or a member, and what
ends a container that can hold no more.
-/

namespace RecordFilter.Json

/-- The place of the next item of a list, or nothing after its last one. -/
def nextItem? (first : Bool) (cs : List Char) : Except Fault (Option (List Char)) :=
  match skipSpace cs with
  | [] => .error (.before .endInList [])
  | ']' :: _ => .ok none
  | c :: rest =>
      if first then
        .ok (some (c :: rest))
      else if c = ',' then
        match skipSpace rest with
        | [] => .error (.before .endInValue [])
        | ']' :: rest => .error (.next .trailingComma (']' :: rest))
        | next => .ok (some next)
      else
        .error (.next .expectedListEnd (c :: rest))

/-- The place after the opening quote of the next member's name, or nothing after the last one. -/
def nextMember? (first : Bool) (cs : List Char) : Except Fault (Option (List Char)) :=
  match skipSpace cs with
  | [] => .error (.before .endInObject [])
  | '}' :: _ => .ok none
  | c :: rest =>
      if first then
        if c = '"' then .ok (some rest) else .error (.next .expectedName (c :: rest))
      else if c = ',' then
        match skipSpace rest with
        | [] => .error (.before .endInValue [])
        | '"' :: rest => .ok (some rest)
        | '}' :: rest => .error (.next .trailingComma ('}' :: rest))
        | next => .error (.next .expectedName next)
      else
        .error (.next .expectedObjectEnd (c :: rest))

/-- The text after the colon of a member. -/
def afterColon (cs : List Char) : Except Fault (List Char) :=
  match skipSpace cs with
  | [] => .error (.before .endInObject [])
  | ':' :: rest => .ok rest
  | rest => .error (.next .expectedColon rest)

/-- The text after a list that can hold no more items. -/
def endOfList (cs : List Char) : Except Fault (List Char) :=
  match skipSpace cs with
  | [] => .error (.before .endInList [])
  | ']' :: rest => .ok rest
  | ',' :: rest =>
      match skipSpace rest with
      | ']' :: rest => .error (.next .trailingComma (']' :: rest))
      | rest => .error (.next .trailingCharacters rest)
  | rest => .error (.next .trailingCharacters rest)

/-- The text after an object that can hold no more members. -/
def endOfObject (cs : List Char) : Except Fault (List Char) :=
  match skipSpace cs with
  | [] => .error (.before .endInObject [])
  | '}' :: rest => .ok rest
  | ',' :: rest => .error (.next .trailingComma (',' :: rest))
  | rest => .error (.next .trailingCharacters rest)

end RecordFilter.Json
