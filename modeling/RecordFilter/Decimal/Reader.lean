import RecordFilter.Decimal.Basic
import RecordFilter.Text.Blank

/-! Reading decimal numbers from text, plain or with an exponent. Places that do not fit are rounded
away; whole digits that do not fit are an error.
-/

namespace RecordFilter.Decimal

open RecordFilter.Text

/-- Rounds on the first place that does not fit. A mantissa that rounding has filled up gives its
last place away.
-/
def roundPlace? (mantissa scale dropped : Nat) : Option (Nat × Nat) :=
  if dropped < 5 then
    some (mantissa, scale)
  else if mantissa + 1 < 1 <<< 96 then
    some (mantissa + 1, scale)
  else if scale = 0 then
    none
  else
    some ((mantissa + 5) / 10, scale - 1)

/-- Mantissas that take up another digit within 64 bits for certain. -/
def isShort (mantissa : Nat) : Bool :=
  mantissa < UInt64.size / 10 - 255

/-- Takes up places as long as they fit; the one after them rounds, and those behind it do not
count. Underscores are passed over, but one right after the last of 28 places stands for a zero if
these were all taken up within 64 bits.
-/
def takePlaces? (mantissa scale : Nat) : List Char → Option (Nat × Nat)
  | [] => some (mantissa, scale)
  | c :: rest =>
      match digit? c with
      | none =>
          if scale = 28 && isShort (mantissa / 10) then
            some (mantissa, scale)
          else
            takePlaces? mantissa scale rest
      | some digit =>
          if scale < 28 && mantissa * 10 + digit < 1 <<< 96 then
            takePlaces? (mantissa * 10 + digit) (scale + 1) rest
          else
            roundPlace? mantissa scale digit

/-- Digits, with underscores anywhere after the first of them. -/
def isNumeral : List Char → Bool
  | [] => false
  | first :: rest => isDigit first && rest.all fun c => isDigit c || c == '_'

/-- Splits off a plus or minus sign. -/
def splitSign : List Char → Bool × List Char
  | '-' :: rest => (true, rest)
  | '+' :: rest => (false, rest)
  | cs => (false, cs)

/-- A number without exponent; either side of the point may be empty, but not both. Places that do
not count have to be digits or underscores all the same. What reads as zero has no sign.
-/
def plain? (cs : List Char) : Option Decimal :=
  let (negative, body) := splitSign cs
  let whole := body.takeWhile (· != '.')
  let places := (body.dropWhile (· != '.')).drop 1
  let mantissa := digitsValue (whole.filter isDigit)
  if isNumeral (whole ++ places) && mantissa < 1 <<< 96 then
    (takePlaces? mantissa 0 places).bind fun (mantissa, scale) =>
      ofParts? (negative && mantissa != 0) mantissa scale
  else
    none

/-- The size of an exponent: digits of a number below `2 ^ 32`, with an optional plus sign. -/
def exponentSize? (cs : List Char) : Option Nat :=
  let digits :=
    match cs with
    | '+' :: rest => rest
    | _ => cs
  (natural? digits).bind fun n => if n < UInt32.size then some n else none

/-- Moves the point to the left. Beyond 28 places the mantissa is rounded, halves upwards. -/
def lowerBy? (d : Decimal) (exponent : Nat) : Option Decimal :=
  if 28 < exponent then
    none
  else if d.scale + exponent ≤ 28 then
    ofParts? d.negative d.mantissa (d.scale + exponent)
  else
    let dropped := d.scale + exponent - 28
    ofParts? d.negative (Rounding.halfUp d.mantissa (Nat.pow 10 dropped)) 28

/-- Moves the point to the right, past the last digit if the mantissa has room for the zeros. -/
def raiseBy? (d : Decimal) (exponent : Nat) : Option Decimal :=
  if exponent ≤ d.scale then
    ofParts? d.negative d.mantissa (d.scale - exponent)
  else if 28 < exponent then
    none
  else if d.isZero then
    some (zero false)
  else
    ofParts? d.negative (d.mantissa * Nat.pow 10 (exponent - d.scale)) 0

def isExponentMark (c : Char) : Bool :=
  c == 'e' || c == 'E'

/-- A plain number, the exponent mark and a whole exponent. -/
def scientific? (cs : List Char) : Option Decimal :=
  let base := cs.takeWhile (!isExponentMark ·)
  match cs.dropWhile (!isExponentMark ·) with
  | [] => none
  | _ :: '-' :: exponent => do (← plain? base).lowerBy? (← exponentSize? exponent)
  | _ :: exponent => do (← plain? base).raiseBy? (← exponentSize? exponent)

/-- Either form, with blanks around it. -/
def ofText? (text : String) : Option Decimal :=
  let cs := trimChars text.toList
  (plain? cs).or (scientific? cs)

end RecordFilter.Decimal
