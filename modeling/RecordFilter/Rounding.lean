/-! Quotients of natural numbers rounded to the nearest whole number. -/

namespace RecordFilter.Rounding

/-- The nearest whole number; a quotient halfway between two goes to the even one. -/
def halfEven (num den : Nat) : Nat :=
  let whole := num / den
  let rest := num % den
  if 2 * rest < den then
    whole
  else if den < 2 * rest then
    whole + 1
  else
    whole + whole % 2

/-- The nearest whole number; a quotient halfway between two goes up. -/
def halfUp (num den : Nat) : Nat :=
  (2 * num + den) / (2 * den)

end RecordFilter.Rounding
