import RecordFilter.Coercion
import RecordFilter.Matrix.Basic
import RecordFilter.Predicate.Basic
import RecordFilter.Schema.FieldIndex
import RecordFilter.Strategy.Registry

/-! Matrices to predicates. Conditions come before nested matrices, each in their order, and the
first error ends the walk.
-/

namespace RecordFilter

structure Compiler where
  strategies : StrategyRegistry
  maxDepth : Nat

/-- One predicate for the parts of a matrix. Without parts everything is accepted, and a negation
has one part exactly.
-/
def Predicate.combine (op : LogicalOperator) (parts : List (Predicate ρ))
    : Except Error (Predicate ρ) :=
  match op, parts with
  | _, [] => .ok (.constant true)
  | .not, [part] => .ok (.not part)
  | .not, parts => .error (.invalidCondition (.operandCount op parts.length))
  | _, [part] => .ok part
  | .and, parts => .ok (.and parts)
  | .or, parts => .ok (.or parts)

namespace Compiler

variable {ρ : Type}

def standard : Compiler :=
  ⟨.standard, defaultMaxDepth⟩

/-- The same strategies with another limit. -/
def withMaxDepth (compiler : Compiler) (maxDepth : Nat) : Compiler :=
  { compiler with maxDepth := maxDepth }

/-- The comparison of two fields. -/
def columnPredicate (compiler : Compiler) (fields : FieldIndex ρ) (condition : Condition)
    (left : Accessor ρ)
    : Except Error (Predicate ρ) := do
  let op := condition.operator
  match condition.otherField?.filter (!Text.isBlankText ·) with
  | none => .error (.invalidCondition (.missingColumn op condition.field))
  | some other =>
      let right ← fields.get other
      let strategy ← compiler.strategies.columnFor op
      let test ← strategy.build op left.field right.field
      return .column left right test

/-- The test of one field against a constant of its type. -/
def valuePredicate (compiler : Compiler) (condition : Condition) (field : Accessor ρ)
    : Except Error (Predicate ρ) := do
  let op := condition.operator
  let operand := condition.operand
  let strategy ← compiler.strategies.valueFor op
  if strategy.expectsArray && !operand.isCollection then
    .error (.invalidCondition (.notArrayOperand op condition.field operand.kind))
  if !strategy.expectsArray && operand.isCollection then
    .error (.invalidCondition (.arrayOperand op condition.field))
  let constant ← operand.coerce (strategy.operandType field.field)
  let test ← strategy.build op field.field constant
  return .value field test

/-- The predicate of one condition. -/
def compileCondition (compiler : Compiler) (fields : FieldIndex ρ) (condition : Condition)
    : Except Error (Predicate ρ) := do
  let field ← fields.get condition.field
  if condition.operator.isColumn then
    compiler.columnPredicate fields condition field
  else if condition.operator.isNullCheck then
    return .isNull field
  else
    compiler.valuePredicate condition field

/-- The predicate of a matrix with so many levels left to it, its own included. -/
def compileWithin (compiler : Compiler) (fields : FieldIndex ρ)
    : Nat → Matrix → Except Error (Predicate ρ)
  | 0, _ => .error (.depthExceeded compiler.maxDepth)
  | levels + 1, m => do
      let conditions ← m.conditions.mapM (compiler.compileCondition fields)
      let nested ← m.nested.mapM (compiler.compileWithin fields levels)
      Predicate.combine m.operator (conditions ++ nested)

/-- The predicate of a matrix over the records of these fields. -/
def compile (compiler : Compiler) (fields : FieldIndex ρ) (m : Matrix)
    : Except Error (Predicate ρ) :=
  compiler.compileWithin fields compiler.maxDepth m

end Compiler

end RecordFilter
