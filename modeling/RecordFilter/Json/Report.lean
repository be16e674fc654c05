import RecordFilter.Json.SyntaxError
import RecordFilter.Text.Digits

/-! Reports of what is wrong: words and, if it is known, a place. A message that ends in a place is
split at it, and a place in line zero is none.
-/

namespace RecordFilter.Json

open RecordFilter.Text

structure Report where
  words : String
  place? : Option Position
deriving DecidableEq

namespace Report

def text (report : Report) : String :=
  match report.place? with
  | some place => report.words ++ " at " ++ place.text
  | none => report.words

/-- The number below `2 ^ 64` whose digits are the last characters, after those before it. -/
def splitNumber? (cs : List Char) : Option (List Char × Nat) :=
  let reversed := cs.reverse
  (natural? (reversed.takeWhile isDigit).reverse).bind fun n =>
    if n < UInt64.size then some ((reversed.dropWhile isDigit).reverse, n) else none

/-- The place at the end of a message, after the words before it. -/
def splitPlace? (message : List Char) : Option (List Char × Position) := do
  let (rest, column) ← splitNumber? message
  let (rest, line) ← splitNumber? (← " column ".toList.isSuffixOf? rest)
  return (← " at line ".toList.isSuffixOf? rest, ⟨line, column⟩)

/-- The report that a message makes. -/
def ofMessage (message : String) : Report :=
  match splitPlace? message.toList with
  | some (words, place) => ⟨String.ofList words, if place.line = 0 then none else some place⟩
  | none => ⟨message, none⟩

def ofSyntaxError (error : SyntaxError) : Report :=
  ⟨error.cause.message, some error.position⟩

end Report

end RecordFilter.Json
