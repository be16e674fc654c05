import RecordFilter.Text.Digits
import RecordFilter.Text.Lowercase

/-! Universally unique identifiers: 128 bits, written as hexadecimal digits in five groups. -/

namespace RecordFilter

structure Uuid where
  value : Nat
  value_lt : value < 1 <<< 128
deriving DecidableEq

namespace Uuid

open RecordFilter.Text

/-- Identifiers are ordered as numbers, which is the order of their bytes. -/
def compare (left right : Uuid) : Ordering :=
  Ord.compare left.value right.value

/-- Thirty-two hexadecimal digits without anything between them. -/
def ofDigits? (cs : List Char) : Option Uuid :=
  if cs.length = 32 && cs.all fun c => (hexDigit? c).isSome then
    let value := cs.foldl (fun n c => 16 * n + (hexDigit? c).getD 0) 0
    if h : value < 1 <<< 128 then some ⟨value, h⟩ else none
  else
    none

/-- Digits in groups of 8, 4, 4, 4 and 12, with hyphens between the groups. -/
def ofGroups? (cs : List Char) : Option Uuid :=
  if cs.length = 36 && [8, 13, 18, 23].all fun place => cs[place]? == some '-' then
    ofDigits?
      (cs.take 8 ++ (cs.drop 9).take 4 ++ (cs.drop 14).take 4 ++ (cs.drop 19).take 4 ++ cs.drop 24)
  else
    none

/-- The name space that an identifier may be written in, in any case of its letters. -/
def namespaceChars : List Char := ['u', 'r', 'n', ':', 'u', 'u', 'i', 'd', ':']

/-- Bare digits, groups, groups in braces, or groups after the name space. -/
def ofChars? (cs : List Char) : Option Uuid :=
  (ofDigits? cs).or <|
    (ofGroups? cs).or <|
      if cs.length = 38 && cs.head? == some '{' && cs.getLast? == some '}' then
        ofGroups? ((cs.drop 1).take 36)
      else if (cs.take 9).map lowerAscii == namespaceChars then
        ofGroups? (cs.drop 9)
      else
        none

def chars (u : Uuid) : List Char :=
  let digits := Nat.toDigits 16 u.value
  let digits := List.replicate (32 - digits.length) '0' ++ digits
  digits.take 8
  ++ '-' :: (digits.drop 8).take 4
  ++ '-' :: (digits.drop 12).take 4
  ++ '-' :: (digits.drop 16).take 4
  ++ '-' :: digits.drop 20

def text (u : Uuid) : String :=
  String.ofList u.chars

end Uuid

end RecordFilter
