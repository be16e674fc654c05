import RecordFilter.Rounding

/-! Floating point numbers of 64 bits as signed significands times powers of two. Arithmetic is
exact on the fractions that they denote and rounds once.
-/

namespace RecordFilter

namespace Binary64

/-- The significand fills 53 bits unless the exponent is the least one. -/
def Canonical (significand : Nat) (exponent : Int) : Prop :=
  significand < 1 <<< 53
  ∧ -1074 ≤ exponent
  ∧ exponent ≤ 971
  ∧ (significand < 1 <<< 52 → exponent = -1074)

instance (significand : Nat) (exponent : Int) : Decidable (Canonical significand exponent) := by
  unfold Canonical; infer_instance

/-- A finite number `± significand · 2 ^ exponent`; zero has a sign too. -/
structure Finite where
  negative : Bool
  significand : Nat
  exponent : Int
  canonical : Canonical significand exponent
deriving DecidableEq

end Binary64

/-- A number of the binary64 format; all that is not a number counts as one value. -/
inductive Binary64 where
  | nan
  | infinity (negative : Bool)
  | finite (number : Binary64.Finite)
deriving DecidableEq

namespace Binary64

/-- The number of these parts, or an infinity when the exponent is beyond the range. -/
def ofParts (negative : Bool) (significand : Nat) (exponent : Int) : Binary64 :=
  if h : Canonical significand exponent then
    .finite ⟨negative, significand, exponent, h⟩
  else
    .infinity negative

def zero (negative : Bool) : Binary64 :=
  ofParts negative 0 (-1074)

/-- A fraction divided by `2 ^ exponent`. -/
def scaleDown (num den : Nat) (exponent : Int) : Nat × Nat :=
  (num <<< (-exponent).toNat, den <<< exponent.toNat)

/-- The exponent at which a positive fraction has a significand of 53 bits, or the least one. -/
def exponentOf (num den : Nat) : Int :=
  let guess : Int := (num.log2 : Int) - den.log2 - 52
  let scaled := scaleDown num den guess
  max (-1074) (if scaled.1 < scaled.2 <<< 52 then guess - 1 else guess)

/-- The number nearest to `num / den`; of two equally near, the one with an even significand. -/
def ofFraction (negative : Bool) (num den : Nat) : Binary64 :=
  if num = 0 then
    zero negative
  else
    let exponent := exponentOf num den
    let scaled := scaleDown num den exponent
    let significand := Rounding.halfEven scaled.1 scaled.2
    if significand = 1 <<< 53 then
      ofParts negative (1 <<< 52) (exponent + 1)
    else
      ofParts negative significand exponent

def ofInt (n : Int) : Binary64 :=
  ofFraction (n < 0) n.natAbs 1

/-- The size of a finite number as a fraction. -/
def Finite.fraction (x : Finite) : Nat × Nat :=
  (x.significand <<< x.exponent.toNat, 1 <<< (-x.exponent).toNat)

def Finite.isZero (x : Finite) : Bool :=
  x.significand == 0

/-- Every finite number is this many times `2 ^ -1074`. -/
def Finite.grid (x : Finite) : Int :=
  let size := x.significand <<< (x.exponent + 1074).toNat
  if x.negative then -(size : Int) else size

/-- The place of a number among the others; infinities lie beyond all finite numbers. -/
def rank? : Binary64 → Option Int
  | nan => none
  | infinity negative =>
      let beyond : Nat := 1 <<< 2098
      some (if negative then -(beyond : Int) else beyond)
  | finite x => some x.grid

/-- The order by value; what is not a number has no place in it. -/
def compare? (left right : Binary64) : Option Ordering :=
  match left.rank?, right.rank? with
  | some x, some y => some (compare x y)
  | _, _ => none

/-- Equality by value: both zeros are equal, and what is not a number equals nothing. -/
def equals (left right : Binary64) : Bool :=
  left.compare? right == some .eq

def isFinite : Binary64 → Bool
  | finite _ => true
  | _ => false

/-- Only the two zeros count as false. -/
def isNonzero : Binary64 → Bool
  | finite x => !x.isZero
  | _ => true

/-- The nearest whole number; halves go to the even one. -/
def Finite.nearestInt (x : Finite) : Int :=
  let size : Int := Rounding.halfEven x.fraction.1 x.fraction.2
  if x.negative then -size else size

/-- The 64 bits of a finite number, as a natural number: the sign, eleven bits of exponent and the
significand. The first of its 53 bits is not written; where it is set it raises the exponent by one.
-/
def Finite.bits (x : Finite) : Nat :=
  let size := (x.exponent + 1074).toNat <<< 52 + x.significand
  if x.negative then 1 <<< 63 + size else size

/-- The 64 bits of a number; one pattern stands for all that are not numbers. -/
def bits : Binary64 → Nat
  | nan => 0x7ff8000000000000
  | infinity negative => if negative then 0xfff0000000000000 else 0x7ff0000000000000
  | finite x => x.bits

end Binary64

end RecordFilter
