import RecordFilter.Binary64.Basic

/-! The decimal number with the fewest digits that still rounds to a given floating point number.
It is sought on ever finer decimal grids; the first grid with a point in the rounding interval
gives it.
-/

namespace RecordFilter.Binary64

/-- Where a number goes that lies exactly between two points of a decimal grid. -/
inductive Tie where
  | up
  | even
deriving DecidableEq

/-- The numbers that round to a positive number, in quarters of its last place: its lower end, the
number itself, its upper end, and whether the ends belong to it.
-/
structure RoundingInterval where
  lower : Nat
  middle : Nat
  upper : Nat
  closed : Bool

/-- Below a power of two the neighbour is nearer, so the interval is shorter on that side. -/
def Finite.interval (x : Finite) : RoundingInterval where
  lower := 4 * x.significand - if x.significand = 1 <<< 52 ∧ -1074 < x.exponent then 1 else 2
  middle := 4 * x.significand
  upper := 4 * x.significand + 2
  closed := x.significand % 2 == 0

/-- The interval with all three numbers multiplied by a factor. -/
def RoundingInterval.scale (interval : RoundingInterval) (factor : Nat) : RoundingInterval :=
  {
    interval with
    lower := interval.lower * factor
    middle := interval.middle * factor
    upper := interval.upper * factor
  }

def RoundingInterval.holds (interval : RoundingInterval) (n : Nat) : Bool :=
  if interval.closed then
    interval.lower ≤ n && n ≤ interval.upper
  else
    interval.lower < n && n < interval.upper

/-- The multiplier of the point of a grid that lies nearest to the middle of the interval, if one
of the two points around the middle is in it.
-/
def RoundingInterval.nearest? (interval : RoundingInterval) (tie : Tie) (unit : Nat) : Option Nat :=
  let below := interval.middle / unit
  let above := below + 1
  let down := interval.middle - below * unit
  let up := above * unit - interval.middle
  match interval.holds (below * unit), interval.holds (above * unit) with
  | false, false => none
  | true, false => some below
  | false, true => some above
  | true, true =>
      if down < up then
        some below
      else if up < down then
        some above
      else
        match tie with
        | .up => some above
        | .even => some (below + below % 2)

/-- The nearest point of the grid of multiples of `10 ^ place`. -/
def Finite.onGrid? (x : Finite) (tie : Tie) (place : Int) : Option Nat :=
  let quarter := x.exponent - 2
  let interval := x.interval.scale (Nat.pow 10 (-place).toNat <<< quarter.toNat)
  interval.nearest? tie (Nat.pow 10 place.toNat <<< (-quarter).toNat)

/-- Tries a grid and then the finer ones, as many as the fuel allows. -/
def Finite.shortestFrom (x : Finite) (tie : Tie) (place : Int) : Nat → Nat × Int
  | 0 => (0, place)
  | fuel + 1 =>
      match x.onGrid? tie place with
      | some digits => (digits, place)
      | none => x.shortestFrom tie (place - 1) fuel

/-- The digits and the decimal place of the last one. No number of the format is as large as
`10 ^ 309`, and at `10 ^ -325` every interval holds a point.
-/
def Finite.shortest (x : Finite) (tie : Tie) : Nat × Int :=
  if x.isZero then (0, 0) else x.shortestFrom tie 309 635

end RecordFilter.Binary64
