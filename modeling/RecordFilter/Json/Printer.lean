import RecordFilter.Json.Basic

/-! JSON text on one line, and indented by two spaces for each level. -/

namespace RecordFilter.Json

/-- Two hexadecimal digits. -/
def hexPair (n : Nat) : List Char :=
  let digits := Nat.toDigits 16 n
  List.replicate (2 - digits.length) '0' ++ digits

/-- Quotes, backslashes and controls are escaped, all else stands for itself. -/
def escapeChar (c : Char) : List Char :=
  match c with
  | '"' => ['\\', '"']
  | '\\' => ['\\', '\\']
  | '\x08' => ['\\', 'b']
  | '\x0c' => ['\\', 'f']
  | '\n' => ['\\', 'n']
  | '\r' => ['\\', 'r']
  | '\t' => ['\\', 't']
  | c => if c.toNat < 0x20 then '\\' :: 'u' :: '0' :: '0' :: hexPair c.toNat else [c]

def stringChars (text : String) : List Char :=
  '"' :: text.toList.flatMap escapeChar ++ ['"']

/-- The parts of a container with a separator between them. -/
def separated (separator : List Char) : List (List Char) → List Char
  | [] => []
  | [part] => part
  | part :: rest => part ++ separator ++ separated separator rest

mutual

def chars : Json → List Char
  | .null => ['n', 'u', 'l', 'l']
  | .bool value => if value then ['t', 'r', 'u', 'e'] else ['f', 'a', 'l', 's', 'e']
  | .number text => text.toList
  | .string text => stringChars text
  | .array items => '[' :: separated [','] (itemChars items) ++ [']']
  | .object members => '{' :: separated [','] (memberChars members) ++ ['}']

def itemChars : List Json → List (List Char)
  | [] => []
  | item :: rest => item.chars :: itemChars rest

def memberChars : List (String × Json) → List (List Char)
  | [] => []
  | (name, value) :: rest => (stringChars name ++ ':' :: value.chars) :: memberChars rest

end

/-- The text on one line, without any space. -/
def text (value : Json) : String :=
  String.ofList value.chars

/-- A line break and the indentation of a level. -/
def lineBreak (level : Nat) : List Char :=
  '\n' :: List.replicate (2 * level) ' '

/-- The parts of a container on lines of their own; an empty one has no line break. -/
def indented (level : Nat) (opening closing : Char) (parts : List (List Char)) : List Char :=
  if parts.isEmpty then
    [opening, closing]
  else
    opening :: lineBreak (level + 1)
    ++ separated (',' :: lineBreak (level + 1)) parts
    ++ lineBreak level
    ++ [closing]

mutual

def indentedChars (level : Nat) : Json → List Char
  | .array items => indented level '[' ']' (indentedItems (level + 1) items)
  | .object members => indented level '{' '}' (indentedMembers (level + 1) members)
  | .null => chars .null
  | .bool value => chars (.bool value)
  | .number text => chars (.number text)
  | .string text => chars (.string text)

def indentedItems (level : Nat) : List Json → List (List Char)
  | [] => []
  | item :: rest => item.indentedChars level :: indentedItems level rest

def indentedMembers (level : Nat) : List (String × Json) → List (List Char)
  | [] => []
  | (name, value) :: rest =>
      (stringChars name ++ ':' :: ' ' :: value.indentedChars level) :: indentedMembers level rest

end

/-- The text over several lines. -/
def indentedText (value : Json) : String :=
  String.ofList (value.indentedChars 0)

end RecordFilter.Json
