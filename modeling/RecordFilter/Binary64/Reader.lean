import RecordFilter.Binary64.Basic
import RecordFilter.Text.Digits
import RecordFilter.Text.Lowercase

/-! Reading floating point numbers from decimal text. -/

namespace RecordFilter.Binary64

open RecordFilter.Text

/-- The number nearest to `digits · 10 ^ exponent`. A power of ten far outside the range is settled
without being computed.
-/
def ofDecimal (negative : Bool) (digits : Nat) (exponent : Int) : Binary64 :=
  if digits = 0 then
    zero negative
  else if 400 < exponent then
    infinity negative
  else if exponent + (digits.log2 / 3 + 1) < -400 then
    zero negative
  else
    ofFraction negative (digits * Nat.pow 10 exponent.toNat) (Nat.pow 10 (-exponent).toNat)

/-- Splits off the digits in front. -/
def spanDigits (cs : List Char) : List Char × List Char :=
  (cs.takeWhile isDigit, cs.dropWhile isDigit)

/-- The exponent part, which may be missing, up to the end of the text. -/
def exponentPart? : List Char → Option Int
  | [] => some 0
  | c :: rest =>
      if c = 'e' || c = 'E' then
        match rest with
        | '-' :: digits => (natural? digits).map fun n => -(n : Int)
        | '+' :: digits => (natural? digits).map fun n => (n : Int)
        | digits => (natural? digits).map fun n => (n : Int)
      else
        none

/-- Digits with an optional point, at least one digit in all, and an optional exponent. -/
def unsigned? (negative : Bool) (cs : List Char) : Option Binary64 :=
  let (whole, rest) := spanDigits cs
  let (fraction, rest) :=
    match rest with
    | '.' :: rest => spanDigits rest
    | _ => ([], rest)
  if whole.isEmpty && fraction.isEmpty then
    none
  else
    (exponentPart? rest).map fun exponent =>
      ofDecimal negative (digitsValue (whole ++ fraction)) (exponent - fraction.length)

/-- The names of the numbers without digits, in any case of their letters. -/
def named? (negative : Bool) (cs : List Char) : Option Binary64 :=
  let name := String.ofList (cs.map lowerAscii)
  if name == "nan" then
    some nan
  else if name == "inf" || name == "infinity" then
    some (infinity negative)
  else
    none

def ofChars? (cs : List Char) : Option Binary64 :=
  match cs with
  | '-' :: rest => (unsigned? true rest).or (named? true rest)
  | '+' :: rest => (unsigned? false rest).or (named? false rest)
  | _ => (unsigned? false cs).or (named? false cs)

end RecordFilter.Binary64
