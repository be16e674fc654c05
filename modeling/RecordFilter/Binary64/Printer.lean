import RecordFilter.Binary64.Shortest
import RecordFilter.Text.Digits

/-! The texts of a floating point number: plain, explicit and as a JSON number. All write the
shortest digits and differ in the layout.
-/

namespace RecordFilter.Binary64

open RecordFilter.Text

/-- How the digits are laid out. -/
structure Layout where
  /-- Which way an exact tie between two shortest decimals goes. -/
  tie : Tie
  /-- The decimal exponents that are written without an exponent part, if there is a bound. -/
  positional : Option (Int × Int)
  /-- Whole numbers are followed by a point and a zero. -/
  pointZero : Bool
  /-- A positive exponent has a plus sign. -/
  plusSign : Bool

/-- Never an exponent, and no point in a whole number. -/
def plainLayout : Layout :=
  ⟨.up, none, false, false⟩

/-- A point in every number, and an exponent below a ten-thousandth and from `10 ^ 16` on. -/
def explicitLayout : Layout :=
  ⟨.up, some (-4, 15), true, false⟩

/-- As JSON numbers are written: an exponent below `10 ^ -5` and from `10 ^ 16` on. -/
def jsonLayout : Layout :=
  ⟨.even, some (-5, 15), true, true⟩

/-- Digits with the point set among them, or beside them after zeros. -/
def positionalDigits (layout : Layout) (digits : List Char) (place : Int) : List Char :=
  if 0 ≤ place then
    digits ++ List.replicate place.toNat '0' ++ if layout.pointZero then ['.', '0'] else []
  else
    let decimals := (-place).toNat
    if decimals < digits.length then
      digits.take (digits.length - decimals) ++ '.' :: digits.drop (digits.length - decimals)
    else
      '0' :: '.' :: List.replicate (decimals - digits.length) '0' ++ digits

/-- One digit, the others after a point if there are any, and the exponent of the first. -/
def scientificDigits (layout : Layout) (digits : List Char) (exponent : Int) : List Char :=
  let mark := if exponent < 0 then ['e', '-'] else if layout.plusSign then ['e', '+'] else ['e']
  (match digits with
    | first :: second :: rest => first :: '.' :: second :: rest
    | short => short)
  ++ mark
  ++ Nat.toDigits 10 exponent.natAbs

def Layout.finite (layout : Layout) (x : Finite) : List Char :=
  let (number, place) := x.shortest layout.tie
  let digits := Nat.toDigits 10 number
  let exponent := place + digits.length - 1
  let isPositional :=
    match layout.positional with
    | none => true
    | some (least, greatest) => x.isZero || (least ≤ exponent && exponent ≤ greatest)
  (if x.negative then ['-'] else [])
  ++ if isPositional then
      positionalDigits layout digits place
    else
      scientificDigits layout digits exponent

def Layout.render (layout : Layout) : Binary64 → String
  | .nan => "NaN"
  | .infinity negative => if negative then "-inf" else "inf"
  | .finite x => String.ofList (layout.finite x)

/-- The plain text of a number. -/
def text (x : Binary64) : String :=
  plainLayout.render x

/-- The text that shows a number to be a floating point number. -/
def explicitText (x : Binary64) : String :=
  explicitLayout.render x

/-- A finite number as a JSON number. -/
def Finite.jsonText (x : Finite) : String :=
  String.ofList (jsonLayout.finite x)

/-- The bits as sixteen hexadecimal digits. -/
def hexText (x : Binary64) : String :=
  let digits := Nat.toDigits 16 x.bits
  String.ofList (List.replicate (16 - digits.length) '0' ++ digits)

end RecordFilter.Binary64
