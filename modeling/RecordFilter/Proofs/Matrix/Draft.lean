import RecordFilter.Matrix.Draft
import RecordFilter.Proofs.Traversal

/-! What drafts become. A run of steps gives the matrix of the parts that the steps stand for, each
in its place, or the error of the first step that stands for none.
-/

namespace RecordFilter

namespace Draft

/-- A step in the construction of a matrix. -/
inductive Step where
  | operator (op : Operator)
  | condition (field : String) (op : Operator) (value : Scalar)
  | pattern (field : String) (op : Operator) (pattern : String)
  | values (field : String) (op : Operator) (values : List Scalar)
  | operand (field : String) (op : Operator) (operand : Operand)
  | column (field : String) (op : Operator) (other : String)
  | nullCheck (field : String)
  | nested (m : Matrix)

/-- The draft after one more step. -/
def take (draft : Draft) : Step → Draft
  | .operator op => draft.withOperator op
  | .condition field op value => draft.addCondition field op value
  | .pattern field op pattern => draft.addPattern field op pattern
  | .values field op values => draft.addValues field op values
  | .operand field op operand => draft.addOperand field op operand
  | .column field op other => draft.addColumn field op other
  | .nullCheck field => draft.addNullCheck field
  | .nested m => draft.addNested m

/-- What the steps build from the empty draft. -/
def run (steps : List Step) : Except Error Matrix :=
  (steps.foldl take empty).build

/-- What a step adds to a matrix. -/
inductive Part where
  | operator (op : LogicalOperator)
  | condition (condition : Condition)
  | nested (m : Matrix)

namespace Part

end Part

/-- The part that a step stands for by itself. -/
def Step.part : Step → Except Error Part
  | .operator op => (LogicalOperator.ofOperator op).map .operator
  | .condition field op value => (Condition.make field op (.single value)).map .condition
  | .pattern field op text => (Condition.make field op (.pattern text)).map .condition
  | .values field op items => (Condition.make field op (.array items)).map .condition
  | .operand field op given => (Condition.make field op given).map .condition
  | .column field op other => (Condition.column field op other).map .condition
  | .nullCheck field => (Condition.isNull field).map .condition
  | .nested m => .ok (.nested m)

section Step

variable {draft : Draft} {fault : Error}

end Step

section Run

variable {draft : Draft} {fault : Error} {steps : List Step} {m : Matrix}

/-- Of two faults the first one counts, and the operator after them is not looked at. -/
example
    : run [.nullCheck " ", .column "Price" .equal "Cost", .operator .or]
      = .error (.invalidCondition .blankField) :=
  rfl

end Run

end Draft

end RecordFilter
