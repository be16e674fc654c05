import RecordFilter.Binary64.Arithmetic
import RecordFilter.Json.Scanner

/-! Numbers of option texts: whole numbers of 64 bits as they are, and all others as floating point
numbers that are scaled by a power of ten once.
-/

namespace RecordFilter.Options

open RecordFilter.Json RecordFilter.Text

inductive Numeral where
  | natural (n : Nat)
  /-- The number `-n`. -/
  | negative (n : Nat)
  | real (x : Binary64)

/-- The digits that fit into 64 bits after a number, how many they are, and those that do not. -/
def takeDigits (significand count : Nat) : List Char → Nat × Nat × List Char
  | [] => (significand, count, [])
  | c :: rest =>
      let next := significand * 10 + (digit? c).getD 0
      if next < UInt64.size then
        takeDigits next (count + 1) rest
      else
        (significand, count, c :: rest)

/-- A number divided by a power of ten that may be beyond the range. -/
def divideByPower (x : Binary64) (power : Nat) : Nat → Binary64
  | 0 => x
  | fuel + 1 =>
      if power ≤ 308 then
        Binary64.div x (Binary64.ofInt (Nat.pow 10 power))
      else
        divideByPower (Binary64.div x (Binary64.ofInt (Nat.pow 10 308))) (power - 308) fuel

/-- A significand times a power of ten, if the product is finite. Three divisions by the greatest
power leave nothing of any significand.
-/
def scaleByPower? (significand : Nat) (exponent : Int) : Option Binary64 :=
  let x := Binary64.ofInt significand
  if exponent < 0 then
    some (divideByPower x exponent.natAbs 3)
  else if significand = 0 then
    some x
  else if 308 < exponent then
    none
  else
    some (Binary64.mul x (Binary64.ofInt (Nat.pow 10 exponent.natAbs))) |>.filter Binary64.isFinite

/-- The digits of an exponent up to the first one that is too many for 32 bits. -/
def exponentValue (value : Nat) : List Char → Nat × Option (List Char)
  | [] => (value, none)
  | c :: rest =>
      let next := value * 10 + (digit? c).getD 0
      if next < 1 <<< 31 then exponentValue next rest else (value, some rest)

/-- The real number of the digits around a point and an exponent; `rest` follows it in the text. -/
def realValue (whole places exponent : List Char) (rest : List Char) : Except Fault Binary64 :=
  let (significand, _, excess) := takeDigits 0 0 whole
  let (significand, taken, _) := takeDigits significand 0 places
  let start : Int := excess.length - taken
  let isNegative := exponent.head? == some '-'
  match exponentValue 0 (exponent.drop 1) with
  | (value, none) =>
      let exponent := if isNegative then start - value else start + value
      match scaleByPower? significand exponent with
      | some x => .ok x
      | none => .error (.before .numberOutOfRange rest)
  | (_, some unread) =>
      if significand = 0 || isNegative then
        .ok (Binary64.zero false)
      else
        .error (.before .numberOutOfRange (unread ++ rest))

/-- A number without its sign, from the parts of its text. -/
def numeralOf (isNegative : Bool) (text rest : List Char) : Except Fault Numeral :=
  let (whole, tail) := scanDigits text
  let (places, tail) :=
    match tail with
    | '.' :: tail => scanDigits tail
    | _ => ([], tail)
  let n := digitsValue whole
  if places.isEmpty && tail.isEmpty && n < UInt64.size && !isNegative then
    .ok (.natural n)
  else if places.isEmpty && tail.isEmpty && 0 < n && n ≤ 1 <<< 63 && isNegative then
    .ok (.negative n)
  else do
    let x ← realValue whole places (tail.drop 1) rest
    return .real (if isNegative then x.negate else x)

def readNumeral (cs : List Char) : Except Fault (Numeral × List Char) :=
  match cs with
  | '-' :: digits => do
      let (text, rest) ← scanUnsigned digits
      return (← numeralOf true text rest, rest)
  | _ => do
      let (text, rest) ← scanUnsigned cs
      return (← numeralOf false text rest, rest)

end RecordFilter.Options
