import RecordFilter.Operator.Basic

/-! The operators that combine the parts of a matrix. -/

namespace RecordFilter

inductive LogicalOperator where
  | and
  | or
  | not
deriving DecidableEq

namespace LogicalOperator

def operator : LogicalOperator → Operator
  | .and => .and
  | .or => .or
  | .not => .not

def code (op : LogicalOperator) : String :=
  op.operator.code

/-- The logical operator among all operators. -/
def ofOperator? : Operator → Option LogicalOperator
  | .and => some .and
  | .or => some .or
  | .not => some .not
  | _ => none

end LogicalOperator

end RecordFilter
