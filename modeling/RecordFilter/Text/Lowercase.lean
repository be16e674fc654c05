import RecordFilter.Text.CaseRuns
import RecordFilter.Text.Cased

/-! The full lowercase mapping, with the sigma that ends a word told from the others. -/

namespace RecordFilter.Text

/-- The nearest character that is not passed over is a letter with a case. -/
def meetsCased (cs : List Char) : Bool :=
  match cs.dropWhile caseIgnorables.has with
  | [] => false
  | c :: _ => casedLetters.has c

/-- The lowercase form of a character on its own; only the capital I with a dot has two. -/
def lowerChar (c : Char) : List Char :=
  if c.toNat < 0x80 then
    [if 'A' ≤ c && c ≤ 'Z' then Char.ofNat (c.toNat + 32) else c]
  else if c = '\u0130' then
    ['i', '\u0307']
  else
    [(caseRuns.findSome? fun run => run.lower? c.toNat).getD c]

/-- A sigma ends a word when a letter comes before it and none comes after. -/
def lowerSigma (before after : List Char) : Char :=
  if meetsCased before && !meetsCased after then '\u03c2' else '\u03c3'

/-- Lowercase of the characters that follow `before`, which is kept in reverse. -/
def lowerAfter (before : List Char) : List Char → List Char
  | [] => []
  | c :: rest =>
      (if c = '\u03a3' then [lowerSigma before rest] else lowerChar c)
      ++ lowerAfter (c :: before) rest

def lowercase (text : String) : String :=
  String.ofList (lowerAfter [] text.toList)

/-- Lowercase of the letters A to Z alone. -/
def lowerAscii (c : Char) : Char :=
  if 'A' ≤ c && c ≤ 'Z' then Char.ofNat (c.toNat + 32) else c

/-- Two texts agree when the case of the letters A to Z is left aside. -/
def sameIgnoringAsciiCase (left right : String) : Bool :=
  left.toList.map lowerAscii == right.toList.map lowerAscii

end RecordFilter.Text
