import RecordFilter.Binary64.Basic

/-! Sum, product and quotient of finite floating point numbers, each exact but for one rounding. -/

namespace RecordFilter.Binary64

/-- The sum, taken in multiples of the least positive number. -/
def Finite.add (x y : Finite) : Binary64 :=
  let sum := x.grid + y.grid
  ofFraction (sum < 0) sum.natAbs (1 <<< 1074)

def Finite.mul (x y : Finite) : Binary64 :=
  ofFraction (x.negative != y.negative)
    (x.fraction.1 * y.fraction.1) (x.fraction.2 * y.fraction.2)

/-- The quotient by a number other than zero. -/
def Finite.div (x y : Finite) : Binary64 :=
  ofFraction (x.negative != y.negative)
    (x.fraction.1 * y.fraction.2) (x.fraction.2 * y.fraction.1)

/-- An operation on finite numbers, carried through a computation that stays finite. -/
def onFinite (operation : Finite → Finite → Binary64) : Binary64 → Binary64 → Binary64
  | finite x, finite y => operation x y
  | _, _ => nan

def add : Binary64 → Binary64 → Binary64 := onFinite Finite.add

def mul : Binary64 → Binary64 → Binary64 := onFinite Finite.mul

def div : Binary64 → Binary64 → Binary64 := onFinite Finite.div

/-- The nearest whole number as a floating point number; halves go away from zero. -/
def Finite.roundAway (x : Finite) : Binary64 :=
  ofFraction x.negative (Rounding.halfUp x.fraction.1 x.fraction.2) 1

def negate : Binary64 → Binary64
  | nan => nan
  | infinity negative => infinity !negative
  | finite x => finite { x with negative := !x.negative }

end RecordFilter.Binary64
