import RecordFilter.Error
import RecordFilter.Predicate.FieldTest

/-! Strategies: the rules by which an operator and its operand become a test. -/

namespace RecordFilter

/-- A comparison with the operators that ask for it, one with constants and one with fields. -/
structure ComparisonRule where
  comparison : Comparison
  valueOperator : Operator
  columnOperator : Operator

namespace ComparisonRule

def equal : ComparisonRule := ⟨.equal, .equal, .columnEqual⟩

def notEqual : ComparisonRule := ⟨.notEqual, .notEqual, .columnNotEqual⟩

def greaterThan : ComparisonRule := ⟨.greaterThan, .greaterThan, .columnGreaterThan⟩

def lessThan : ComparisonRule := ⟨.lessThan, .lessThan, .columnLessThan⟩

def greaterThanOrEqual : ComparisonRule :=
  ⟨.greaterThanOrEqual, .greaterThanOrEqual, .columnGreaterThanOrEqual⟩

def lessThanOrEqual : ComparisonRule :=
  ⟨.lessThanOrEqual, .lessThanOrEqual, .columnLessThanOrEqual⟩

/-- The rules of all six comparisons. -/
def all : List ComparisonRule :=
  [equal, notEqual, greaterThan, lessThan, greaterThanOrEqual, lessThanOrEqual]

end ComparisonRule

/-- How a field is tested against a constant: by a rule of the library or by one of the caller. -/
structure ValueStrategy where
  /-- The name of the strategy in diagnostic texts. -/
  name : String
  handles : Operator → Bool
  /-- The operand has to be a list. -/
  expectsArray : Bool := false
  /-- The type that the operand takes before the test is built. -/
  operandType : Field → FieldType :=
    fun field => if expectsArray then .array field.type else field.type
  /-- The test of a field by an operator against a constant of the operand's type. -/
  build : Operator → Field → Value → Except Error ValueTest

/-- How two fields are tested against each other: by a rule of the library or by one of the caller.
-/
structure ColumnStrategy where
  /-- The name of the strategy in diagnostic texts. -/
  name : String
  handles : Operator → Bool
  /-- The test of a field by an operator against another field. -/
  build : Operator → Field → Field → Except Error ColumnTest

/-- An ordering comparison is for ordered fields only. -/
def requireOrdered (comparison : Comparison) (op : Operator) (field : Field)
    : Except Error Unit :=
  if comparison.isOrdering && !field.type.isOrdered then
    .error (.invalidCondition (.unorderedField op field))
  else
    .ok ()

/-- A pattern is for fields of text only. -/
def requireText (op : Operator) (field : Field) : Except Error Unit :=
  if field.type.isText then .ok () else .error (.invalidCondition (.notTextField op field))

namespace ValueStrategy

/-- The items of a list to look for a value in. -/
def membershipTest (op : Operator) : Value → Except Error ValueTest
  | .array items => .ok (.among items)
  | constant => .error (.invalidCondition (.notArrayConstant op constant.kind))

/-- The text to look for in a field. -/
def patternText (op : Operator) (field : Field) : Value → Except Error String
  | .string text => .ok text
  | .null => .error (.invalidCondition (.nullPattern op field.name))
  | constant => .error (.invalidCondition (.notTextPattern op constant.kind))

def patternTest (op : Operator) (pattern : String) : Except Error ValueTest :=
  match op with
  | .like => .ok (.contains pattern false)
  | .likeIgnoringCase => .ok (.contains (Text.lowercase pattern) true)
  | .notLike => .ok (.not (.contains pattern false))
  | _ => .error (.unsupportedOperator op .value)

/-- The comparison of a field with a constant. -/
def comparison (rule : ComparisonRule) : ValueStrategy where
  name := rule.valueOperator.description
  handles op := op == rule.valueOperator
  build op field constant := do
    if op != rule.valueOperator then
      .error (.unsupportedOperator op .value)
    requireOrdered rule.comparison op field
    return .compare rule.comparison constant

def membership : ValueStrategy where
  name := "in"
  handles op := op == .within
  expectsArray := true
  build op _ constant := membershipTest op constant

def exclusion : ValueStrategy where
  name := "not in"
  handles op := op == .notWithin
  expectsArray := true
  build op _ constant := (membershipTest op constant).map .not

def pattern : ValueStrategy where
  name := "pattern"
  handles op := op == .like || op == .likeIgnoringCase || op == .notLike
  build op field constant := do
    requireText op field
    patternTest op (← patternText op field constant)

section Handles

variable (op : Operator)

@[simp]
theorem comparison_handles (rule : ComparisonRule)
    : (comparison rule).handles op = (op == rule.valueOperator) :=
  rfl

@[simp]
theorem membership_handles : membership.handles op = (op == .within) :=
  rfl

@[simp]
theorem exclusion_handles : exclusion.handles op = (op == .notWithin) :=
  rfl

@[simp]
theorem pattern_handles
    : pattern.handles op = (op == .like || op == .likeIgnoringCase || op == .notLike) :=
  rfl

end Handles

end ValueStrategy

namespace ColumnStrategy

/-- The comparison of two fields of one type. -/
def comparison (rule : ComparisonRule) : ColumnStrategy where
  name := rule.columnOperator.description
  handles op := op == rule.columnOperator
  build op left right := do
    if op != rule.columnOperator then
      .error (.unsupportedOperator op .column)
    if !left.type.same right.type then
      .error (.invalidCondition (.differentTypes left right))
    requireOrdered rule.comparison op left
    return .compare rule.comparison

def pattern : ColumnStrategy where
  name := "column pattern"
  handles op := op == .columnLike || op == .columnLikeIgnoringCase
  build op left right := do
    requireText op left
    requireText op right
    match op with
    | .columnLike => return .contains false
    | .columnLikeIgnoringCase => return .contains true
    | _ => .error (.unsupportedOperator op .column)

@[simp]
theorem comparison_handles (rule : ComparisonRule) (op : Operator)
    : (comparison rule).handles op = (op == rule.columnOperator) :=
  rfl

@[simp]
theorem pattern_handles (op : Operator)
    : pattern.handles op = (op == .columnLike || op == .columnLikeIgnoringCase) :=
  rfl

end ColumnStrategy

end RecordFilter
