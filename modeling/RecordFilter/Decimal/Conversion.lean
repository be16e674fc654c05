import RecordFilter.Binary64.Arithmetic
import RecordFilter.Decimal.Basic

/-! Decimal numbers to floating point numbers and back. -/

namespace RecordFilter.Decimal

open Binary64 (Finite)

/-- The whole part and the fraction are converted apart; their sum is rounded to the places of the
decimal number.
-/
def sizeToBinary64 (d : Decimal) : Binary64 :=
  let unit := Nat.pow 10 d.scale
  let power := Binary64.ofInt unit
  let whole := Binary64.ofInt (d.mantissa / unit : Nat)
  let part := Binary64.div (Binary64.ofInt (d.mantissa % unit : Nat)) power
  if part.isNonzero then
    match Binary64.mul (Binary64.add whole part) power with
    | .finite shifted => Binary64.div shifted.roundAway power
    | beyond => beyond
  else
    whole

def toBinary64 (d : Decimal) : Binary64 :=
  if d.scale = 0 then
    Binary64.ofInt (d.signed d.mantissa)
  else if d.negative then
    d.sizeToBinary64.negate
  else
    d.sizeToBinary64

/-- A number `mantissa · 2 ^ binary · 10 ^ decimal` on its way from one base to the other. -/
structure MixedBase where
  mantissa : Nat
  decimal : Int

/-- Trades negative powers of two for tenths; halves an even mantissa where it can, and gives up its
last bit where the mantissa would leave 96 bits.
-/
def MixedBase.spreadHalves (x : MixedBase) : Nat → MixedBase
  | 0 => x
  | halvings + 1 =>
      if x.mantissa % 2 = 0 then
        spreadHalves ⟨x.mantissa / 2, x.decimal + 1⟩ halvings
      else if x.mantissa * 5 < 1 <<< 96 then
        spreadHalves ⟨x.mantissa * 5, x.decimal⟩ halvings
      else
        spreadHalves ⟨x.mantissa / 2, x.decimal + 1⟩ halvings

/-- Trades powers of five for tenths while a bit is free, and divides by five when none is. -/
def MixedBase.spreadFives? (x : MixedBase) : Nat → Option MixedBase
  | 0 => some x
  | fives + 1 =>
      if x.mantissa < 1 <<< 95 then
        spreadFives? ⟨x.mantissa * 2, x.decimal - 1⟩ fives
      else if 2 * x.decimal > fives + 1 then
        none
      else
        spreadFives? ⟨x.mantissa / 5, x.decimal⟩ fives

/-- Multiplies positive powers of ten into the mantissa. -/
def MixedBase.fill? (x : MixedBase) : Nat → Option MixedBase
  | 0 => some x
  | tens + 1 =>
      if x.mantissa * 10 < 1 <<< 96 then fill? ⟨x.mantissa * 10, x.decimal - 1⟩ tens else none

/-- The mantissa without its last digit, rounded on that digit. -/
def dropDigit (mantissa : Nat) : Nat :=
  mantissa / 10 + if 5 ≤ mantissa % 10 then 1 else 0

/-- Drops digits that lie beyond the places; a mantissa that is used up is zero. -/
def MixedBase.cutPlaces (x : MixedBase) : Nat → MixedBase
  | 0 => x
  | excess + 1 =>
      if x.mantissa < 10 then
        ⟨0, 0⟩
      else
        cutPlaces ⟨dropDigit x.mantissa, x.decimal + 1⟩ excess

/-- Drops places until the mantissa has no more bits than a significand has. -/
def MixedBase.cutPrecision (x : MixedBase) : Nat → MixedBase
  | 0 => x
  | places + 1 =>
      if 1 <<< 52 ≤ x.mantissa then
        cutPrecision ⟨dropDigit x.mantissa, x.decimal + 1⟩ places
      else
        x

/-- Drops places that are zero. -/
def MixedBase.cutZeros (x : MixedBase) : Nat → MixedBase
  | 0 => x
  | places + 1 =>
      if x.mantissa % 10 = 0 then
        cutZeros ⟨x.mantissa / 10, x.decimal + 1⟩ places
      else
        x

/-- The decimal number that a floating point number converts to, if the mantissa has room. -/
def ofFinite? (x : Finite) : Option Decimal := do
  if x.isZero then
    return zero x.negative
  let halves := (-x.exponent).toNat
  let fives := x.exponent.toNat
  let spread := MixedBase.spreadHalves ⟨x.significand, x.exponent⟩ halves
  let raised ← spread.spreadFives? fives
  let filled ← raised.fill? raised.decimal.toNat
  let cut := filled.cutPlaces (-28 - filled.decimal).toNat
  let short := cut.cutPrecision (-cut.decimal).toNat
  let least := short.cutZeros (-short.decimal).toNat
  ofParts? x.negative least.mantissa (-least.decimal).toNat

def ofBinary64? : Binary64 → Option Decimal
  | .finite x => ofFinite? x
  | _ => none

end RecordFilter.Decimal
