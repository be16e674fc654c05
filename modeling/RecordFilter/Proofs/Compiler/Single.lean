import RecordFilter.Proofs.Compiler.Acceptance
import RecordFilter.Proofs.Compiler.Conditions

/-! Filters that are one condition, under the standard strategies. Which of them compile, and to
which predicate, is said by one rule for the operators that compare, one for each operator on lists
and one for all operators on two fields.
-/

namespace RecordFilter

namespace Comparison

/-- The operator that compares a field with a constant. -/
def valueOperator : Comparison → Operator
  | .equal => .equal
  | .notEqual => .notEqual
  | .greaterThan => .greaterThan
  | .lessThan => .lessThan
  | .greaterThanOrEqual => .greaterThanOrEqual
  | .lessThanOrEqual => .lessThanOrEqual

/-- The operator that compares a field with another one. -/
def columnOperator : Comparison → Operator
  | .equal => .columnEqual
  | .notEqual => .columnNotEqual
  | .greaterThan => .columnGreaterThan
  | .lessThan => .columnLessThan
  | .greaterThanOrEqual => .columnGreaterThanOrEqual
  | .lessThanOrEqual => .columnLessThanOrEqual

def rule (comparison : Comparison) : ComparisonRule :=
  ⟨comparison, comparison.valueOperator, comparison.columnOperator⟩

theorem valueOperator_inj {comparison other : Comparison}
    (same : comparison.valueOperator = other.valueOperator)
    : comparison = other := by
  cases comparison <;> cases other <;> first | rfl | cases same

theorem columnOperator_inj {comparison other : Comparison}
    (same : comparison.columnOperator = other.columnOperator)
    : comparison = other := by
  cases comparison <;> cases other <;> first | rfl | cases same

end Comparison

/-- There is one rule for each comparison. -/
theorem ComparisonRule.mem_all_iff {rule : ComparisonRule}
    : rule ∈ all ↔ ∃ comparison : Comparison, comparison.rule = rule := by
  simp only [all, List.mem_cons, List.not_mem_nil, or_false]
  constructor
  · intro known
    rcases known with rfl | rfl | rfl | rfl | rfl | rfl
    · exact ⟨.equal, rfl⟩
    · exact ⟨.notEqual, rfl⟩
    · exact ⟨.greaterThan, rfl⟩
    · exact ⟨.lessThan, rfl⟩
    · exact ⟨.greaterThanOrEqual, rfl⟩
    · exact ⟨.lessThanOrEqual, rfl⟩
  · intro ⟨comparison, same⟩
    rw [← same]
    cases comparison <;> simp [Comparison.rule, Comparison.valueOperator,
      Comparison.columnOperator, equal, notEqual, greaterThan, lessThan, greaterThanOrEqual,
      lessThanOrEqual]

theorem Comparison.rule_mem_all (comparison : Comparison) : comparison.rule ∈ ComparisonRule.all :=
  ComparisonRule.mem_all_iff.mpr ⟨comparison, rfl⟩

/-- The operators that look through a list, for the value of a field or for others only. -/
def Operator.onList (excludes : Bool) : Operator :=
  match excludes with
  | false => .within
  | true => .notWithin

/-- The test of a field by an operator that looks through a list. -/
def ValueTest.onList (excludes : Bool) (items : List Value) : ValueTest :=
  match excludes with
  | false => .among items
  | true => .not (.among items)

section Tests

variable {type left right : FieldType} {operand : Operand} {comparison : Comparison}

/-- What compares a field with a constant: any single constant of the type, for an order where the
type has one.
-/
theorem ValueTest.built_comparison_iff {test : ValueTest}
    : Built type operand comparison.valueOperator test
      ↔ operand.isCollection = false
        ∧ (comparison.isOrdering = true → type.isOrdered = true)
        ∧ ∃ constant, operand.coerce type = .ok constant ∧ .compare comparison constant = test := by
  constructor
  · intro built
    generalize asked : comparison.valueOperator = op at built
    cases built with
    | @comparison rule constant known single taken ordered =>
        obtain ⟨other, rfl⟩ := ComparisonRule.mem_all_iff.mp known
        obtain rfl := Comparison.valueOperator_inj asked
        exact ⟨single, ordered, constant, taken, rfl⟩
    | within | notWithin | like | likeIgnoringCase | notLike => cases comparison <;> cases asked
  · intro ⟨single, ordered, constant, taken, same⟩
    rw [← same]
    exact .comparison comparison.rule_mem_all single taken ordered

/-- What looks through a list of constants of the type, for the value of a field or for others. -/
theorem ValueTest.built_onList_iff {excludes : Bool} {test : ValueTest}
    : Built type operand (Operator.onList excludes) test
      ↔ operand.isCollection = true
        ∧ ∃ items,
            operand.coerce (.array type) = .ok (.array items) ∧ onList excludes items = test := by
  constructor
  · intro built
    generalize asked : Operator.onList excludes = op at built
    cases built with
    | @comparison rule _ known =>
        obtain ⟨comparison, rfl⟩ := ComparisonRule.mem_all_iff.mp known
        cases excludes <;> cases comparison <;> cases asked
    | within list taken | notWithin list taken =>
        cases excludes <;> cases asked
        exact ⟨list, _, taken, rfl⟩
    | like | likeIgnoringCase | notLike => cases excludes <;> cases asked
  · intro ⟨list, items, taken, same⟩
    rw [← same]
    cases excludes with
    | false => exact .within list taken
    | true => exact .notWithin list taken

/-- What compares two fields: their types are the same, with an order where one is asked for. -/
theorem ColumnTest.built_comparison_iff {test : ColumnTest}
    : Built left right comparison.columnOperator test
      ↔ left.same right = true
        ∧ (comparison.isOrdering = true → left.isOrdered = true)
        ∧ .compare comparison = test := by
  constructor
  · intro built
    generalize asked : comparison.columnOperator = op at built
    cases built with
    | @comparison rule known same ordered =>
        obtain ⟨other, rfl⟩ := ComparisonRule.mem_all_iff.mp known
        obtain rfl := Comparison.columnOperator_inj asked
        exact ⟨same, ordered, rfl⟩
    | like | likeIgnoringCase => cases comparison <;> cases asked
  · intro ⟨same, ordered, compared⟩
    rw [← compared]
    exact .comparison comparison.rule_mem_all same ordered

/-- Operands that are taken by a test of one field name no other field. -/
theorem ValueTest.Built.ne_column {op : Operator} {test : ValueTest}
    (built : Built type operand op test) (other : String)
    : operand ≠ .column other := by
  rintro rfl
  cases built with
  | comparison known single taken => cases taken
  | within list taken | notWithin list taken => cases list
  | like single isText taken | likeIgnoringCase single isText taken
  | notLike single isText taken => cases taken

end Tests

namespace Compiler

variable {ρ : Type} {fields : FieldIndex ρ} {name other : String} {op : Operator}
  {operand : Operand} {p : Predicate ρ}

/-- The predicate of a filter that is one condition, made of these parts. -/
def compileOne (fields : FieldIndex ρ) (field : String) (op : Operator) (operand : Operand)
    : Except Error (Predicate ρ) := do
  let condition ← Condition.make field op operand
  standard.compile fields (.node .and [condition] [])

/-- A single condition compiles to its own predicate, within any number of levels. -/
theorem compileWithin_singleton_eq_ok_iff {compiler : Compiler} {levels : Nat}
    {condition : Condition} (standard : compiler.strategies = .standard)
    : compiler.compileWithin fields (levels + 1) (.node .and [condition] []) = .ok p
      ↔ condition.CompilesTo fields p := by
  refine compileWithin_succ_eq_ok_iff.trans ?_
  simp only [standard_compileCondition_eq_ok_iff standard]
  constructor
  · intro ⟨parts, subtrees, ofConditions, ofNested, combined⟩
    cases ofNested
    obtain ⟨part, rest, compiled, ofRest, rfl⟩ := List.forall₂_cons_left_iff.mp ofConditions
    cases ofRest
    -- A conjunction of one part is this part.
    cases combined
    exact compiled
  · intro compiled
    exact ⟨[p], [], .cons compiled .nil, .nil, rfl⟩

theorem compile_singleton_eq_ok_iff {condition : Condition}
    : standard.compile fields (.node .and [condition] []) = .ok p
      ↔ condition.CompilesTo fields p :=
  compileWithin_singleton_eq_ok_iff rfl

theorem compileOne_eq_ok_iff
    : compileOne fields name op operand = .ok p
      ↔ ∃ condition : Condition,
          condition.field = name
          ∧ condition.operator = op
          ∧ condition.operand = operand
          ∧ condition.CompilesTo fields p := by
  simp only [compileOne, bind_eq_ok_iff, compile_singleton_eq_ok_iff, Condition.make_eq_ok_iff,
    and_assoc]

/-- A filter is a test of a field against constants exactly when its operator builds such a test for
the field that is found.
-/
theorem compileOne_value_iff (onConstants : op.kind = .comparison ∨ op.kind = .text)
    : compileOne fields name op operand = .ok p
      ↔ Text.isBlankText name = false
        ∧ ∃ field test,
            fields.get? name = some field
            ∧ ValueTest.Built field.type operand op test
            ∧ .value field test = p := by
  rw [compileOne_eq_ok_iff]
  constructor
  · rintro ⟨condition, rfl, rfl, rfl, compiles⟩
    refine ⟨(Condition.fits_iff.mpr condition.valid).named, ?_⟩
    cases compiles with
    | value found built => exact ⟨_, _, found, built, rfl⟩
    | column _ _ _ built => rcases onConstants with h | h <;> cases h.symm.trans built.kind
    | isNull _ asked => rcases onConstants with h | h <;> rw [asked] at h <;> cases h
  · intro ⟨named, field, test, found, built, same⟩
    have fits : Condition.Fits name op operand := by
      refine ⟨named, ?_, ?_, fun _ => built.ne_column⟩
      · rcases onConstants with h | h <;> simp [Operator.isLogical, h]
      · rw [built.isColumn_eq_false]
        refine ⟨fun ⟨other, column, _⟩ => absurd column (built.ne_column other), nofun⟩
    exact ⟨⟨name, op, operand, Condition.fits_iff.mp fits⟩, rfl, rfl, rfl,
      same ▸ .value found built⟩

/-- A filter compares two fields exactly when both are found and its operator builds a test for
their types.
-/
theorem compileOne_column_iff
    : compileOne fields name op (.column other) = .ok p
      ↔ Text.isBlankText name = false
        ∧ Text.isBlankText other = false
        ∧ ∃ left right test,
            fields.get? name = some left
            ∧ fields.get? other = some right
            ∧ ColumnTest.Built left.type right.type op test
            ∧ .column left right test = p := by
  rw [compileOne_eq_ok_iff]
  constructor
  · rintro ⟨condition, rfl, rfl, named, compiles⟩
    refine ⟨(Condition.fits_iff.mpr condition.valid).named, condition.isBlankText_column named, ?_⟩
    cases compiles with
    | value _ built => exact absurd named (built.ne_column other)
    | column found named' foundOther built =>
        rw [named, Operand.column.injEq] at named'
        exact ⟨_, _, _, found, named' ▸ foundOther, built, rfl⟩
    | isNull _ asked =>
        have compares := condition.isColumn_iff.mpr ⟨other, named⟩
        rw [asked] at compares
        cases compares
  · intro ⟨named, namedOther, left, right, test, found, foundOther, built, same⟩
    have compares : op.isColumn = true := by
      simp [Operator.isColumn, built.kind]
    have fits : Condition.Fits name op (.column other) := by
      refine ⟨named, ?_, ⟨fun _ => compares, fun _ => ⟨other, rfl, namedOther⟩⟩, ?_⟩
      · simp [Operator.isLogical, built.kind]
      · intro alone
        rw [compares] at alone
        cases alone
    exact ⟨⟨name, op, .column other, Condition.fits_iff.mp fits⟩, rfl, rfl, rfl,
      same ▸ .column found rfl foundOther built⟩

end Compiler

end RecordFilter
