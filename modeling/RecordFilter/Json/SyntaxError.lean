/-! What can be wrong with a JSON text, and where. -/

namespace RecordFilter.Json

inductive SyntaxCause where
  | endInValue
  | endInList
  | endInObject
  | endInString
  | expectedValue
  | expectedWord
  | expectedColon
  | expectedListEnd
  | expectedObjectEnd
  | expectedName
  | trailingComma
  | trailingCharacters
  | invalidNumber
  | numberOutOfRange
  | invalidEscape
  | controlCharacter
  | loneSurrogate
  | unpairedSurrogate
  | nestedTooDeep
  | wrongType (found expected : String)
deriving DecidableEq

def SyntaxCause.message : SyntaxCause → String
  | endInValue => "EOF while parsing a value"
  | endInList => "EOF while parsing a list"
  | endInObject => "EOF while parsing an object"
  | endInString => "EOF while parsing a string"
  | expectedValue => "expected value"
  | expectedWord => "expected ident"
  | expectedColon => "expected `:`"
  | expectedListEnd => "expected `,` or `]`"
  | expectedObjectEnd => "expected `,` or `\x7d`"
  | expectedName => "key must be a string"
  | trailingComma => "trailing comma"
  | trailingCharacters => "trailing characters"
  | invalidNumber => "invalid number"
  | numberOutOfRange => "number out of range"
  | invalidEscape => "invalid escape"
  | controlCharacter => "control character (\\u0000-\\u001F) found while parsing a string"
  | loneSurrogate => "lone leading surrogate in hex escape"
  | unpairedSurrogate => "unexpected end of hex escape"
  | nestedTooDeep => "recursion limit exceeded"
  | wrongType found expected => "invalid type: " ++ found ++ ", expected " ++ expected

/-- A place in a text: the line, counted from one, and the bytes of it that come before. -/
structure Position where
  line : Nat
  column : Nat
deriving DecidableEq

namespace Position

def start : Position := ⟨1, 0⟩

/-- The place after a character. -/
def step (place : Position) (c : Char) : Position :=
  if c = '\n' then ⟨place.line + 1, 0⟩ else ⟨place.line, place.column + c.utf8Size⟩

/-- The place that many bytes further on, but not beyond the end of the text. -/
def advance (place : Position) (bytes : Nat) : List Char → Position
  | [] => place
  | c :: rest =>
      if c.utf8Size ≤ bytes then
        (place.step c).advance (bytes - c.utf8Size) rest
      else
        { place with column := place.column + bytes }

def text (place : Position) : String :=
  "line " ++ toString place.line ++ " column " ++ toString place.column

end Position

/-- A cause at a place of the text. -/
structure SyntaxError where
  cause : SyntaxCause
  position : Position
deriving DecidableEq

def SyntaxError.message (error : SyntaxError) : String :=
  error.cause.message ++ " at " ++ error.position.text

/-- The bytes of the characters. -/
def byteCount (cs : List Char) : Nat :=
  cs.foldr (fun c count => c.utf8Size + count) 0

/-- A cause found by a reader: the text that is left, and how many bytes of it belong to the part
found wrong. It may be left of the contents of a string, which are a text of their own then.
-/
structure Fault where
  cause : SyntaxCause
  rest : List Char
  bytes : Nat
  contents? : Option (List Char) := none

/-- The cause is known before the next character is taken. -/
def Fault.before (cause : SyntaxCause) (rest : List Char) : Fault :=
  { cause, rest, bytes := 0 }

/-- The cause is the next character, of which one byte is taken. -/
def Fault.next (cause : SyntaxCause) (rest : List Char) : Fault :=
  { cause, rest, bytes := 1 }

/-- The fault as one in the contents of a string. -/
def Fault.inContents (fault : Fault) (contents : List Char) : Fault :=
  { fault with contents? := some contents }

/-- The place in a text of which a part is left and some bytes of that part are taken. -/
def Position.inText (text rest : List Char) (bytes : Nat) : Position :=
  Position.start.advance (byteCount text - byteCount rest + bytes) text

/-- The error for the text that the reader started from. -/
def Fault.inText (fault : Fault) (text : List Char) : SyntaxError :=
  ⟨fault.cause, .inText (fault.contents?.getD text) fault.rest fault.bytes⟩

end RecordFilter.Json
