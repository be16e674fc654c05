import RecordFilter.Error
import RecordFilter.Text.Blank

/-! Conditions: a field, an operator and an operand that go together. -/

namespace RecordFilter

/-- The first rule that field, operator and operand break, if there is one. -/
def ConditionFault.of? (field : String) (op : Operator) (operand : Operand)
    : Option ConditionFault :=
  if Text.isBlankText field then
    some .blankField
  else if op.isLogical then
    some (.logicalOperator op field)
  else
    match operand with
    | .column name =>
        if !op.isColumn then
          some (.strayColumn name op)
        else if Text.isBlankText name then
          some .blankColumn
        else
          none
    | _ => if op.isColumn then some (.missingColumn op field) else none

/-- A test of one field, which breaks no rule. -/
structure Condition where
  field : String
  operator : Operator
  operand : Operand
  valid : ConditionFault.of? field operator operand = none

namespace Condition

/-- The condition of these parts, or the first rule that they break. -/
def make (field : String) (op : Operator) (operand : Operand) : Except Error Condition :=
  match h : ConditionFault.of? field op operand with
  | none => .ok ⟨field, op, operand, h⟩
  | some fault => .error (.invalidCondition fault)

/-- A comparison of two fields. -/
def column (field : String) (op : Operator) (other : String) : Except Error Condition :=
  if op.isColumn then
    make field op (.column other)
  else
    .error (.invalidCondition (.notColumnOperator op))

def isNull (field : String) : Except Error Condition :=
  make field .isNull .null

/-- The other field of a comparison of two. -/
def otherField? (condition : Condition) : Option String :=
  match condition.operand with
  | .column name => some name
  | _ => none

def equals (left right : Condition) : Bool :=
  left.field == right.field
  && left.operator == right.operator
  && left.operand.equals right.operand

end Condition

end RecordFilter
