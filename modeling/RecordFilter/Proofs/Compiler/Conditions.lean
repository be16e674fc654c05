import RecordFilter.Compiler
import RecordFilter.Proofs.Condition
import RecordFilter.Proofs.Schema.Lookup
import RecordFilter.Proofs.Traversal

/-! What conditions compile to under the standard strategies. The rules say for each operator which
operands it takes, what the type of the field has to be and which test comes out.
-/

namespace RecordFilter

/-- The tests that operators ask for of a field of some type and an operand. -/
inductive ValueTest.Built (type : FieldType) (operand : Operand) : Operator → ValueTest → Prop
  | comparison {rule : ComparisonRule} {constant : Value} (known : rule ∈ ComparisonRule.all)
    (single : operand.isCollection = false) (taken : operand.coerce type = .ok constant)
    (ordered : rule.comparison.isOrdering = true → type.isOrdered = true)
    : Built type operand rule.valueOperator (.compare rule.comparison constant)
  | within {items : List Value} (list : operand.isCollection = true)
    (taken : operand.coerce (.array type) = .ok (.array items))
    : Built type operand .within (.among items)
  | notWithin {items : List Value} (list : operand.isCollection = true)
    (taken : operand.coerce (.array type) = .ok (.array items))
    : Built type operand .notWithin (.not (.among items))
  | like {pattern : String} (single : operand.isCollection = false) (isText : type.isText = true)
    (taken : operand.coerce type = .ok (.string pattern))
    : Built type operand .like (.contains pattern false)
  | likeIgnoringCase {pattern : String} (single : operand.isCollection = false)
    (isText : type.isText = true) (taken : operand.coerce type = .ok (.string pattern))
    : Built type operand .likeIgnoringCase (.contains (Text.lowercase pattern) true)
  | notLike {pattern : String} (single : operand.isCollection = false)
    (isText : type.isText = true) (taken : operand.coerce type = .ok (.string pattern))
    : Built type operand .notLike (.not (.contains pattern false))

/-- The tests that operators ask for of two fields of some types. -/
inductive ColumnTest.Built (left right : FieldType) : Operator → ColumnTest → Prop
  | comparison {rule : ComparisonRule} (known : rule ∈ ComparisonRule.all)
    (same : left.same right = true)
    (ordered : rule.comparison.isOrdering = true → left.isOrdered = true)
    : Built left right rule.columnOperator (.compare rule.comparison)
  | like (leftText : left.isText = true) (rightText : right.isText = true)
    : Built left right .columnLike (.contains false)
  | likeIgnoringCase (leftText : left.isText = true) (rightText : right.isText = true)
    : Built left right .columnLikeIgnoringCase (.contains true)

/-- The predicates that conditions compile to. -/
inductive Condition.CompilesTo (fields : FieldIndex ρ) (condition : Condition)
    : Predicate ρ → Prop
  | value {field : Accessor ρ} {test : ValueTest}
    (found : fields.get? condition.field = some field)
    (built : ValueTest.Built field.type condition.operand condition.operator test)
    : CompilesTo fields condition (.value field test)
  | column {left right : Accessor ρ} {other : String} {test : ColumnTest}
    (found : fields.get? condition.field = some left)
    (named : condition.operand = .column other) (foundOther : fields.get? other = some right)
    (built : ColumnTest.Built left.type right.type condition.operator test)
    : CompilesTo fields condition (.column left right test)
  | isNull {field : Accessor ρ} (found : fields.get? condition.field = some field)
    (asked : condition.operator = .isNull)
    : CompilesTo fields condition (.isNull field)

theorem Operator.eq_isNull_of_isNullCheck {op : Operator} (h : op.isNullCheck = true)
    : op = .isNull := by
  cases op <;> simp_all [isNullCheck, kind]

theorem ComparisonRule.kind_operators
    : ∀ rule ∈ all, rule.valueOperator.kind = .comparison ∧ rule.columnOperator.kind = .column := by
  decide

/-- Tests against constants come from comparisons and from operators on text. -/
theorem ValueTest.Built.kind {type : FieldType} {operand : Operand} {op : Operator}
    {test : ValueTest} (built : Built type operand op test)
    : op.kind = .comparison ∨ op.kind = .text := by
  cases built with
  | comparison known => exact .inl (ComparisonRule.kind_operators _ known).1
  | within | notWithin => exact .inl rfl
  | like | likeIgnoringCase | notLike => exact .inr rfl

theorem ValueTest.Built.isColumn_eq_false {type : FieldType} {operand : Operand} {op : Operator}
    {test : ValueTest} (built : Built type operand op test)
    : op.isColumn = false := by
  rcases built.kind with h | h <;> simp [Operator.isColumn, h]

theorem ValueTest.Built.isNullCheck_eq_false {type : FieldType} {operand : Operand}
    {op : Operator} {test : ValueTest} (built : Built type operand op test)
    : op.isNullCheck = false := by
  rcases built.kind with h | h <;> simp [Operator.isNullCheck, h]

/-- Tests against other fields come from operators on columns. -/
theorem ColumnTest.Built.kind {left right : FieldType} {op : Operator} {test : ColumnTest}
    (built : Built left right op test)
    : op.kind = .column := by
  cases built with
  | comparison known => exact (ComparisonRule.kind_operators _ known).2
  | like | likeIgnoringCase => rfl

theorem requireOrdered_eq_ok_iff {comparison : Comparison} {op : Operator} {field : Field}
    {passed : Unit}
    : requireOrdered comparison op field = .ok passed
      ↔ (comparison.isOrdering = true → field.type.isOrdered = true) := by
  unfold requireOrdered
  cases comparison.isOrdering <;> cases field.type.isOrdered <;> simp

theorem requireText_eq_ok_iff {op : Operator} {field : Field} {passed : Unit}
    : requireText op field = .ok passed ↔ field.type.isText = true := by
  unfold requireText
  cases field.type.isText <;> simp

section Registry

variable {registry : StrategyRegistry} {op : Operator}

/-- The first strategy that handles an operator serves it, for comparisons and operators on text. -/
theorem StrategyRegistry.valueFor_eq_ok_iff {strategy : ValueStrategy}
    : registry.valueFor op = .ok strategy
      ↔ (op.kind == .comparison || op.isText) = true
        ∧ registry.value.find? (·.handles op) = some strategy := by
  unfold valueFor
  split
  next takes => cases registry.value.find? (·.handles op) <;> simp [takes]
  next never => simp [never]

theorem StrategyRegistry.columnFor_eq_ok_iff {strategy : ColumnStrategy}
    : registry.columnFor op = .ok strategy
      ↔ op.isColumn = true ∧ registry.column.find? (·.handles op) = some strategy := by
  unfold columnFor
  split
  next takes => cases registry.column.find? (·.handles op) <;> simp [takes]
  next never => simp [never]

end Registry

attribute [local simp] ComparisonRule.all ComparisonRule.equal ComparisonRule.notEqual
  ComparisonRule.greaterThan ComparisonRule.lessThan ComparisonRule.greaterThanOrEqual
  ComparisonRule.lessThanOrEqual

/-- The standard strategy of each operator on constants, by cases on the operator. -/
theorem StrategyRegistry.standard_valueFor_eq_ok_iff {op : Operator} {strategy : ValueStrategy}
    : standard.valueFor op = .ok strategy
      ↔ (∃ rule ∈ ComparisonRule.all, rule.valueOperator = op ∧ .comparison rule = strategy)
        ∨ (op = .within ∧ .membership = strategy)
        ∨ (op = .notWithin ∧ .exclusion = strategy)
        ∨ ((op = .like ∨ op = .likeIgnoringCase ∨ op = .notLike) ∧ .pattern = strategy) := by
  cases op <;>
    simp [valueFor, standard, Operator.kind, Operator.isText]

/-- The standard strategy of each operator on two fields, by cases on the operator. -/
theorem StrategyRegistry.standard_columnFor_eq_ok_iff {op : Operator}
    {strategy : ColumnStrategy}
    : standard.columnFor op = .ok strategy
      ↔ (∃ rule ∈ ComparisonRule.all, rule.columnOperator = op ∧ .comparison rule = strategy)
        ∨ ((op = .columnLike ∨ op = .columnLikeIgnoringCase) ∧ .pattern = strategy) := by
  cases op <;>
    simp [columnFor, standard, Operator.kind, Operator.isColumn]

namespace ValueStrategy

variable {op : Operator} {field : Field} {constant : Value} {test : ValueTest}

theorem build_comparison_eq_ok_iff {rule : ComparisonRule}
    : (comparison rule).build op field constant = .ok test
      ↔ rule.valueOperator = op
        ∧ (rule.comparison.isOrdering = true → field.type.isOrdered = true)
        ∧ .compare rule.comparison constant = test := by
  simp only [comparison]
  by_cases h : op = rule.valueOperator
  · simp [h, bind_eq_ok_iff, requireOrdered_eq_ok_iff, and_comm]
  · simp [h, Ne.symm h]

theorem membershipTest_eq_ok_iff
    : membershipTest op constant = .ok test
      ↔ ∃ items, constant = .array items ∧ .among items = test := by
  cases constant <;> simp [membershipTest]

theorem build_membership_eq_ok_iff
    : membership.build op field constant = .ok test
      ↔ ∃ items, constant = .array items ∧ .among items = test :=
  membershipTest_eq_ok_iff

theorem build_exclusion_eq_ok_iff
    : exclusion.build op field constant = .ok test
      ↔ ∃ items, constant = .array items ∧ .not (.among items) = test := by
  cases constant <;> simp [exclusion, membershipTest, Except.map]

theorem build_pattern_eq_ok_iff
    : pattern.build op field constant = .ok test
      ↔ field.type.isText = true
        ∧ ∃ text, constant = .string text ∧ patternTest op text = .ok test := by
  cases constant <;>
    simp [pattern, bind_eq_ok_iff, requireText_eq_ok_iff, patternText]

end ValueStrategy

namespace ColumnStrategy

variable {op : Operator} {left right : Field} {test : ColumnTest}

theorem build_comparison_eq_ok_iff {rule : ComparisonRule}
    : (comparison rule).build op left right = .ok test
      ↔ rule.columnOperator = op
        ∧ left.type.same right.type = true
        ∧ (rule.comparison.isOrdering = true → left.type.isOrdered = true)
        ∧ .compare rule.comparison = test := by
  simp only [comparison]
  by_cases h : op = rule.columnOperator
  · cases left.type.same right.type <;>
      simp [h, bind_eq_ok_iff, requireOrdered_eq_ok_iff]
  · simp [h, Ne.symm h]

theorem build_pattern_eq_ok_iff
    : pattern.build op left right = .ok test
      ↔ left.type.isText = true
        ∧ right.type.isText = true
        ∧ (op = .columnLike ∧ .contains false = test
          ∨ op = .columnLikeIgnoringCase ∧ .contains true = test) := by
  cases op <;> simp [pattern, bind_eq_ok_iff, requireText_eq_ok_iff]

end ColumnStrategy

namespace Compiler

/-- A test of one field is built by the strategy of the operator once the operand has taken the
type that the strategy asks for.
-/
theorem valuePredicate_eq_ok_iff {compiler : Compiler} {condition : Condition}
    {field : Accessor ρ} {p : Predicate ρ}
    : compiler.valuePredicate condition field = .ok p
      ↔ ∃ strategy constant test,
          compiler.strategies.valueFor condition.operator = .ok strategy
          ∧ condition.operand.isCollection = strategy.expectsArray
          ∧ condition.operand.coerce (strategy.operandType field.field) = .ok constant
          ∧ strategy.build condition.operator field.field constant = .ok test
          ∧ .value field test = p := by
  unfold valuePredicate
  rw [bind_eq_ok_iff]
  refine exists_congr fun strategy => ?_
  cases condition.operand.isCollection <;> cases strategy.expectsArray <;>
    simp [bind_eq_ok_iff]

/-- A test of two fields is built by the strategy of the operator once both fields are found. -/
theorem columnPredicate_eq_ok_iff {compiler : Compiler} {fields : FieldIndex ρ}
    {condition : Condition} {left : Accessor ρ} {p : Predicate ρ}
    : compiler.columnPredicate fields condition left = .ok p
      ↔ ∃ other right strategy test,
          condition.operand = .column other
          ∧ Text.isBlankText other = false
          ∧ fields.get? other = some right
          ∧ compiler.strategies.columnFor condition.operator = .ok strategy
          ∧ strategy.build condition.operator left.field right.field = .ok test
          ∧ .column left right test = p := by
  unfold columnPredicate Condition.otherField?
  cases condition.operand with
  | column name =>
      cases hb : Text.isBlankText name <;>
        simp [Option.filter, hb, bind_eq_ok_iff, FieldIndex.get_eq_ok_iff]
  | null | single _ | array _ | pattern _ => simp

variable {compiler : Compiler} {fields : FieldIndex ρ} {condition : Condition} {p : Predicate ρ}

/-- Under the standard strategies the tests of one field are those that the rules allow. -/
theorem standard_valuePredicate_eq_ok_iff (standard : compiler.strategies = .standard)
    {field : Accessor ρ}
    : compiler.valuePredicate condition field = .ok p
      ↔ ∃ test,
          ValueTest.Built field.type condition.operand condition.operator test
          ∧ .value field test = p := by
  rw [valuePredicate_eq_ok_iff, standard]
  constructor
  · intro h
    obtain ⟨strategy, constant, test, served, shape, taken, built, rfl⟩ := h
    refine ⟨test, ?_, rfl⟩
    -- One case for each strategy: it fixes the type that is asked for and the tests.
    rcases StrategyRegistry.standard_valueFor_eq_ok_iff.mp served with
      ⟨rule, known, _, rfl⟩ | ⟨asked, rfl⟩ | ⟨asked, rfl⟩ | ⟨asked, rfl⟩
    · obtain ⟨asked, ordered, rfl⟩ := ValueStrategy.build_comparison_eq_ok_iff.mp built
      exact asked ▸ .comparison known shape taken ordered
    · obtain ⟨items, rfl, rfl⟩ := ValueStrategy.build_membership_eq_ok_iff.mp built
      exact asked ▸ .within shape taken
    · obtain ⟨items, rfl, rfl⟩ := ValueStrategy.build_exclusion_eq_ok_iff.mp built
      exact asked ▸ .notWithin shape taken
    · obtain ⟨isText, pattern, rfl, searched⟩ := ValueStrategy.build_pattern_eq_ok_iff.mp built
      rcases asked with asked | asked | asked <;> rw [asked] at searched <;>
        cases searched <;> rw [asked]
      · exact .like shape isText taken
      · exact .likeIgnoringCase shape isText taken
      · exact .notLike shape isText taken
  · intro h
    obtain ⟨test, built, rfl⟩ := h
    -- The rules speak of one operator each, which is no variable inside of the condition.
    generalize asked : condition.operator = op at built
    cases built with
    | @comparison rule constant known single taken ordered =>
        exact ⟨.comparison rule, constant, _,
          StrategyRegistry.standard_valueFor_eq_ok_iff.mpr (.inl ⟨rule, known, rfl, rfl⟩),
          single, taken,
          ValueStrategy.build_comparison_eq_ok_iff.mpr ⟨rfl, ordered, rfl⟩, rfl⟩
    | within list taken =>
        exact ⟨.membership, _, _, rfl, list, taken, rfl, rfl⟩
    | notWithin list taken =>
        exact ⟨.exclusion, _, _, rfl, list, taken, rfl, rfl⟩
    | like single isText taken =>
        exact ⟨.pattern, _, _, rfl, single, taken,
          ValueStrategy.build_pattern_eq_ok_iff.mpr ⟨isText, _, rfl, rfl⟩, rfl⟩
    | likeIgnoringCase single isText taken =>
        exact ⟨.pattern, _, _, rfl, single, taken,
          ValueStrategy.build_pattern_eq_ok_iff.mpr ⟨isText, _, rfl, rfl⟩, rfl⟩
    | notLike single isText taken =>
        exact ⟨.pattern, _, _, rfl, single, taken,
          ValueStrategy.build_pattern_eq_ok_iff.mpr ⟨isText, _, rfl, rfl⟩, rfl⟩

/-- Under the standard strategies the tests of two fields are those that the rules allow. -/
theorem standard_columnPredicate_eq_ok_iff (standard : compiler.strategies = .standard)
    {left : Accessor ρ}
    : compiler.columnPredicate fields condition left = .ok p
      ↔ ∃ other right test,
          condition.operand = .column other
          ∧ Text.isBlankText other = false
          ∧ fields.get? other = some right
          ∧ ColumnTest.Built left.type right.type condition.operator test
          ∧ .column left right test = p := by
  rw [columnPredicate_eq_ok_iff, standard]
  constructor
  · intro h
    obtain ⟨other, right, strategy, test, named, notBlank, found, served, built, rfl⟩ := h
    refine ⟨other, right, test, named, notBlank, found, ?_, rfl⟩
    rcases StrategyRegistry.standard_columnFor_eq_ok_iff.mp served with
      ⟨rule, known, _, rfl⟩ | ⟨_, rfl⟩
    · obtain ⟨asked, same, ordered, rfl⟩ := ColumnStrategy.build_comparison_eq_ok_iff.mp built
      exact asked ▸ .comparison known same ordered
    · obtain ⟨leftText, rightText, ⟨asked, rfl⟩ | ⟨asked, rfl⟩⟩ :=
        ColumnStrategy.build_pattern_eq_ok_iff.mp built
      · exact asked ▸ .like leftText rightText
      · exact asked ▸ .likeIgnoringCase leftText rightText
  · intro h
    obtain ⟨other, right, test, named, notBlank, found, built, rfl⟩ := h
    generalize asked : condition.operator = op at built
    cases built with
    | @comparison rule known same ordered =>
        exact ⟨other, right, .comparison rule, _, named, notBlank, found,
          StrategyRegistry.standard_columnFor_eq_ok_iff.mpr (.inl ⟨rule, known, rfl, rfl⟩),
          ColumnStrategy.build_comparison_eq_ok_iff.mpr ⟨rfl, same, ordered, rfl⟩, rfl⟩
    | like leftText rightText =>
        exact ⟨other, right, .pattern, _, named, notBlank, found, rfl,
          ColumnStrategy.build_pattern_eq_ok_iff.mpr
            ⟨leftText, rightText, .inl ⟨rfl, rfl⟩⟩, rfl⟩
    | likeIgnoringCase leftText rightText =>
        exact ⟨other, right, .pattern, _, named, notBlank, found, rfl,
          ColumnStrategy.build_pattern_eq_ok_iff.mpr
            ⟨leftText, rightText, .inr ⟨rfl, rfl⟩⟩, rfl⟩

/-- Under the standard strategies a condition compiles to the predicates that the rules allow. -/
theorem standard_compileCondition_eq_ok_iff (standard : compiler.strategies = .standard)
    : compiler.compileCondition fields condition = .ok p ↔ condition.CompilesTo fields p := by
  simp only [compileCondition, bind_eq_ok_iff, FieldIndex.get_eq_ok_iff]
  constructor
  · intro ⟨field, found, compiled⟩
    split at compiled
    · obtain ⟨other, right, test, named, _, foundOther, built, rfl⟩ :=
        (standard_columnPredicate_eq_ok_iff standard).mp compiled
      exact .column found named foundOther built
    · split at compiled
      next asked =>
        cases compiled
        exact .isNull found (Operator.eq_isNull_of_isNullCheck asked)
      next =>
        obtain ⟨test, built, rfl⟩ := (standard_valuePredicate_eq_ok_iff standard).mp compiled
        exact .value found built
  · intro compiles
    cases compiles with
    | value found built =>
        refine ⟨_, found, ?_⟩
        rw [built.isColumn_eq_false, built.isNullCheck_eq_false, if_neg Bool.false_ne_true,
          if_neg Bool.false_ne_true]
        exact (standard_valuePredicate_eq_ok_iff standard).mpr ⟨_, built, rfl⟩
    | column found named foundOther built =>
        refine ⟨_, found, ?_⟩
        rw [if_pos (by simp [Operator.isColumn, built.kind])]
        exact (standard_columnPredicate_eq_ok_iff standard).mpr
          ⟨_, _, _, named, condition.isBlankText_column named, foundOther, built, rfl⟩
    | isNull found asked =>
        refine ⟨_, found, ?_⟩
        simp [asked, Operator.isColumn, Operator.isNullCheck, Operator.kind]

end Compiler

end RecordFilter
