import RecordFilter.Json.Parser

/-! Passing over a JSON value without reading it. The nesting is not limited, and a comma is checked
by what follows it alone.
-/

namespace RecordFilter.Json

/-- A container that is open. -/
inductive Container where
  | list
  | object
deriving DecidableEq

def Container.closing : Container → Char
  | list => ']'
  | object => '}'

/-- The cause when the text ends inside. -/
def Container.unfinished : Container → SyntaxCause
  | list => .endInList
  | object => .endInObject

/-- The cause when neither a comma nor the end follows an item. -/
def Container.unseparated : Container → SyntaxCause
  | list => .expectedListEnd
  | object => .expectedObjectEnd

/-- A number that ends too early is invalid wherever the text ends. -/
def skipNumber (cs : List Char) : Except Fault (List Char) :=
  match scanNumber cs with
  | .ok (_, rest) => .ok rest
  | .error fault =>
      .error (if fault.cause = .endInValue then { fault with cause := .invalidNumber } else fault)

/-- The text after an escape, whose code may be any. -/
def skipEscape : List Char → Except Fault (List Char)
  | 'u' :: rest => (scanHex rest).map Prod.snd
  | cs => (scanEscape cs).map Prod.snd

/-- The text after a string whose opening quote is passed. -/
def skipString : Nat → List Char → Except Fault (List Char)
  | 0, cs => .error (.before .endInString cs)
  | fuel + 1, cs =>
      match cs with
      | [] => .error (.before .endInString [])
      | '"' :: rest => .ok rest
      | '\\' :: rest => do skipString fuel (← skipEscape rest)
      | c :: rest =>
          if c.toNat < 0x20 then
            .error (.before .controlCharacter (c :: rest))
          else
            skipString fuel rest

/-- The text after the name and the colon of a member. -/
def skipName (cs : List Char) : Except Fault (List Char) :=
  match skipSpace cs with
  | [] => .error (.before .endInObject [])
  | '"' :: rest => do afterColon (← skipString (rest.length + 1) rest)
  | rest => .error (.next .expectedName rest)

/-- The text after what comes before a value in a container. -/
def skipToValue (container : Container) (cs : List Char) : Except Fault (List Char) :=
  match container with
  | .list => .ok cs
  | .object => skipName cs

mutual

/-- The text after a value and after the containers that are open around it. -/
def skipValue (around : List Container) : Nat → List Char → Except Fault (List Char)
  | 0, cs => .error (.before .endInValue cs)
  | fuel + 1, cs =>
      match skipSpace cs with
      | [] => .error (.before .endInValue [])
      | 'n' :: rest => do skipToEnd around true fuel (← scanWord ['u', 'l', 'l'] rest)
      | 't' :: rest => do skipToEnd around true fuel (← scanWord ['r', 'u', 'e'] rest)
      | 'f' :: rest => do skipToEnd around true fuel (← scanWord ['a', 'l', 's', 'e'] rest)
      | '"' :: rest => do skipToEnd around true fuel (← skipString (rest.length + 1) rest)
      | '[' :: rest => skipToEnd (.list :: around) false fuel rest
      | '{' :: rest => skipToEnd (.object :: around) false fuel rest
      | c :: rest =>
          if c = '-' || Text.isDigit c then do
            skipToEnd around true fuel (← skipNumber (c :: rest))
          else
            .error (.next .expectedValue (c :: rest))

/-- The text after the innermost container that is open and all around it. A comma may come only
after an item.
-/
def skipToEnd (around : List Container) (afterItem : Bool)
    : Nat → List Char → Except Fault (List Char)
  | 0, cs => .error (.before .endInValue cs)
  | fuel + 1, cs =>
      match around with
      | [] => .ok cs
      | container :: outer =>
          match skipSpace cs with
          | [] => .error (.before container.unfinished [])
          | c :: rest =>
              if c = container.closing then
                skipToEnd outer true fuel rest
              else if !afterItem then do
                skipValue around fuel (← skipToValue container (c :: rest))
              else if c = ',' then do
                skipValue around fuel (← skipToValue container rest)
              else
                .error (.next container.unseparated (c :: rest))

end

/-- The text after a value. -/
def afterValue (cs : List Char) : Except Fault (List Char) :=
  skipValue [] (readFuel cs) cs

end RecordFilter.Json
