import RecordFilter.Value.Basic

/-! The six comparisons of two values. -/

namespace RecordFilter

inductive Comparison where
  | equal
  | notEqual
  | greaterThan
  | lessThan
  | greaterThanOrEqual
  | lessThanOrEqual
deriving DecidableEq

namespace Comparison

def symbol : Comparison → String
  | .equal => "=="
  | .notEqual => "!="
  | .greaterThan => ">"
  | .lessThan => "<"
  | .greaterThanOrEqual => ">="
  | .lessThanOrEqual => "<="

def name : Comparison → String
  | .equal => "Equal"
  | .notEqual => "NotEqual"
  | .greaterThan => "GreaterThan"
  | .lessThan => "LessThan"
  | .greaterThanOrEqual => "GreaterThanOrEqual"
  | .lessThanOrEqual => "LessThanOrEqual"

/-- Comparisons that need an order. -/
def isOrdering : Comparison → Bool
  | .equal | .notEqual => false
  | _ => true

/-- Null equals null; values without an order between them are neither greater nor less. -/
def holds (comparison : Comparison) (left right : Value) : Bool :=
  match comparison with
  | .equal => left.equals right
  | .notEqual => !left.equals right
  | .greaterThan => (left.compare? right).any Ordering.isGT
  | .lessThan => (left.compare? right).any Ordering.isLT
  | .greaterThanOrEqual => (left.compare? right).any Ordering.isGE
  | .lessThanOrEqual => (left.compare? right).any Ordering.isLE

end Comparison

end RecordFilter
