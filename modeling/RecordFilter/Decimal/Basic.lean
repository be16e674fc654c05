import RecordFilter.Integer
import RecordFilter.Rounding

/-! Decimal numbers with a mantissa of 96 bits and up to 28 decimal places. The places belong to the
number as it is written; equality and order go by value alone.
-/

namespace RecordFilter

/-- The number `± mantissa / 10 ^ scale`; zero has a sign too. -/
structure Decimal where
  negative : Bool
  mantissa : Nat
  scale : Nat
  mantissa_lt : mantissa < 1 <<< 96
  scale_le : scale ≤ 28
deriving DecidableEq

namespace Decimal

/-- The number of these parts, if mantissa and scale are in range. -/
def ofParts? (negative : Bool) (mantissa scale : Nat) : Option Decimal :=
  if h : mantissa < 1 <<< 96 ∧ scale ≤ 28 then
    some ⟨negative, mantissa, scale, h.1, h.2⟩
  else
    none

def zero (negative : Bool) : Decimal :=
  ⟨negative, 0, 0, by decide, by decide⟩

def isZero (d : Decimal) : Bool :=
  d.mantissa == 0

/-- Puts the sign of the number before a size. -/
def signed (d : Decimal) (size : Nat) : Int :=
  if d.negative then -(size : Int) else size

/-- Every number is this many times `10 ^ -28`. -/
def grid (d : Decimal) : Int :=
  d.signed (d.mantissa * Nat.pow 10 (28 - d.scale))

def compare (left right : Decimal) : Ordering :=
  Ord.compare left.grid right.grid

/-- Equality by value: `1.0` equals `1.00`, and both zeros are equal. -/
def equals (left right : Decimal) : Bool :=
  left.grid == right.grid

def ofBool (b : Bool) : Decimal :=
  ⟨false, b.toNat, 0, by cases b <;> decide, by decide⟩

/-- A 64-bit integer as a decimal without places. -/
def ofInt64 (n : Int64) : Decimal where
  negative := n.toInt < 0
  mantissa := n.toInt.natAbs
  scale := 0
  mantissa_lt := by
    have low := n.le_toInt
    have high := n.toInt_lt
    omega
  scale_le := by decide

/-- The nearest whole number; halves go to the even one. -/
def nearestInt (d : Decimal) : Int :=
  d.signed (Rounding.halfEven d.mantissa (Nat.pow 10 d.scale))

/-- The whole number that this number is, if it has no fraction. -/
def wholeInt? (d : Decimal) : Option Int :=
  let unit := Nat.pow 10 d.scale
  if d.mantissa % unit = 0 then some (d.signed (d.mantissa / unit)) else none

/-- The text with exactly as many places as the scale says. -/
def chars (d : Decimal) : List Char :=
  let digits := Text.padded (d.scale + 1) d.mantissa
  let whole := digits.take (digits.length - d.scale)
  let places := digits.drop (digits.length - d.scale)
  (if d.negative then ['-'] else [])
  ++ whole
  ++ if d.scale = 0 then [] else '.' :: places

def text (d : Decimal) : String :=
  String.ofList d.chars

end Decimal

end RecordFilter
