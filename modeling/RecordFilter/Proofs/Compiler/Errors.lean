import RecordFilter.Matrix.Document.Reading
import RecordFilter.Proofs.Coercion.Basic
import RecordFilter.Proofs.Compiler.Acceptance
import RecordFilter.Proofs.Compiler.Conditions
import RecordFilter.Proofs.Failure
import RecordFilter.Proofs.Json.Tree
import RecordFilter.Proofs.Matrix.Draft

/-! What can go wrong in a compilation under the standard strategies. The parts of a condition go
together however it was made, so that the rules about them are never found broken, and an operator
that nothing serves is one of four on text.
-/

namespace RecordFilter

/-- The operators on text that no standard strategy serves. -/
def Operator.reserved : List Operator :=
  [.similar, .notSimilar, .regex, .regexIgnoringCase]

/-- Rules that are checked when a condition is made or an operator of a node is set. -/
def ConditionFault.isOfMaking : ConditionFault → Bool
  | .notLogical _ | .blankField | .logicalOperator .. | .strayColumn .. | .blankColumn
  | .missingColumn .. | .notColumnOperator _ => true
  | .unorderedField .. | .notTextField .. | .differentTypes .. | .notArrayConstant ..
  | .nullPattern .. | .notTextPattern .. | .notArrayOperand .. | .arrayOperand ..
  | .operandCount .. | .reported _ => false

/-- What can go wrong with a condition of this operator. -/
def Error.IsOfCondition (op : Operator) : Error → Prop
  | .unknownField .. | .valueConversion .. | .unsupportedValue .. => True
  | .unsupportedOperator op' context => op' = op ∧ op ∈ Operator.reserved ∧ context = .value
  | .invalidCondition fault => fault.isOfMaking = false
  | .unknownOperator _ | .depthExceeded _ | .serialization _ => False

/-- What can go wrong with a matrix: a condition of it, its depth or the number of its parts. -/
inductive Error.IsOfMatrix (m : Matrix) : Error → Prop
  | condition {c : Condition} {e : Error} (member : c ∈ m.allConditions)
    (h : e.IsOfCondition c.operator)
    : IsOfMatrix m e
  | depth (limit : Nat) : IsOfMatrix m (.depthExceeded limit)
  | operandCount (op : LogicalOperator) (count : Nat)
    : IsOfMatrix m (.invalidCondition (.operandCount op count))

section Coercion

variable {op : Operator}

theorem Scalar.convert_failsOnly (scalar : Scalar) (target : FieldType)
    : FailsOnly (Error.IsOfCondition op) (scalar.convert target) := by
  unfold convert
  split
  next => exact .error trivial
  next =>
    split
    next value _ => exact .ok value
    next => exact .error trivial

theorem Json.convertSingle_failsOnly (json : Json) (target : FieldType)
    : FailsOnly (Error.IsOfCondition op) (convertSingle target json) := by
  unfold convertSingle convertScalar
  split
  next => exact .error trivial
  next =>
    split
    next value _ => exact .ok value
    next => exact .error trivial

/-- Documents are read item by item, by induction on them. -/
theorem Json.convert_failsOnly (json : Json) (target : FieldType)
    : FailsOnly (Error.IsOfCondition op) (json.convert target) := by
  induction json using Json.induction generalizing target with
  | null => exact .ok _
  | bool _ | number _ | string _ => exact convertSingle_failsOnly _ target
  | array items ih =>
      cases target with
      | array element =>
          rw [convert, convertItems_eq_mapM]
          exact .bind (.mapM fun item member => ih item member element) fun values _ => .ok _
      | _ => exact .error trivial
  | object members _ => exact .error trivial

theorem Scalar.coerce_failsOnly (scalar : Scalar) (target : FieldType)
    : FailsOnly (Error.IsOfCondition op) (scalar.coerce target) := by
  unfold coerce
  split
  next json => exact json.convert_failsOnly target
  next => exact scalar.convert_failsOnly target

/-- An operand that does not take a type is not converted or not of a kind to be converted. -/
theorem Operand.coerce_failsOnly (operand : Operand) (target : FieldType)
    : FailsOnly (Error.IsOfCondition op) (operand.coerce target) := by
  cases operand with
  | null => exact .ok _
  | single value => exact value.coerce_failsOnly target
  | pattern text => exact (Scalar.string text).convert_failsOnly target
  | array items =>
      cases target with
      | array element =>
          exact .bind (.mapM fun item _ => item.coerce_failsOnly element) fun values _ => .ok _
      | _ => exact .error trivial
  | column other => exact .error trivial

end Coercion

section Strategies

variable {op : Operator}

/-- Of the operators that test a field against a constant only the reserved ones go unserved, by
cases on the operator.
-/
theorem StrategyRegistry.standard_valueFor_failsOnly (single : op.isColumn = false)
    (asks : op.isNullCheck = false) (tests : op.isLogical = false)
    : FailsOnly (Error.IsOfCondition op) (standard.valueFor op) := by
  intro e failed
  cases op with
  | similar | notSimilar | regex | regexIgnoringCase =>
      cases failed
      exact ⟨rfl, by decide, rfl⟩
  | isNull => cases asks
  | and | or | not => cases tests
  | columnEqual | columnNotEqual | columnGreaterThan | columnLessThan | columnGreaterThanOrEqual
  | columnLessThanOrEqual | columnLike | columnLikeIgnoringCase => cases single
  | _ => cases failed

/-- Every operator on two fields is served. -/
theorem StrategyRegistry.standard_columnFor_failsOnly (compares : op.isColumn = true)
    : FailsOnly (Error.IsOfCondition op) (standard.columnFor op) := by
  intro e failed
  cases op <;> cases compares <;> cases failed

theorem requireOrdered_failsOnly (comparison : Comparison) (asked : Operator) (field : Field)
    : FailsOnly (Error.IsOfCondition op) (requireOrdered comparison asked field) :=
  .ite (fun _ => .error rfl) fun _ => .ok ()

theorem requireText_failsOnly (asked : Operator) (field : Field)
    : FailsOnly (Error.IsOfCondition op) (requireText asked field) :=
  .ite (fun _ => .ok ()) fun _ => .error rfl

theorem ValueStrategy.membershipTest_failsOnly (asked : Operator) (constant : Value)
    : FailsOnly (Error.IsOfCondition op) (membershipTest asked constant) := by
  cases constant with
  | array items => exact .ok _
  | _ => exact .error rfl

theorem ValueStrategy.patternText_failsOnly (asked : Operator) (field : Field) (constant : Value)
    : FailsOnly (Error.IsOfCondition op) (patternText asked field constant) := by
  cases constant with
  | string text => exact .ok text
  | _ => exact .error rfl

/-- A strategy that serves an operator builds its tests unless a rule of it is broken. -/
theorem ValueStrategy.build_failsOnly {strategy : ValueStrategy}
    (served : StrategyRegistry.standard.valueFor op = .ok strategy) (field : Field)
    (constant : Value)
    : FailsOnly (Error.IsOfCondition op) (strategy.build op field constant) := by
  rcases StrategyRegistry.standard_valueFor_eq_ok_iff.mp served with
    ⟨rule, _, rfl, rfl⟩ | ⟨rfl, rfl⟩ | ⟨rfl, rfl⟩ | ⟨asked, rfl⟩
  · simp only [comparison, bne_self_eq_false, Bool.false_eq_true, if_false]
    exact .bind (requireOrdered_failsOnly _ _ _) fun _ _ => .ok _
  · exact membershipTest_failsOnly _ _
  · have built := @membershipTest_failsOnly .notWithin .notWithin constant
    intro e failed
    rw [exclusion, ← errorOf?_eq_some_iff, errorOf?_map, errorOf?_eq_some_iff] at failed
    exact built e failed
  · refine .bind (requireText_failsOnly _ _) fun _ _ => .bind (patternText_failsOnly _ _ _) ?_
    intro text _
    rcases asked with rfl | rfl | rfl <;> exact .ok _

theorem ColumnStrategy.build_failsOnly {strategy : ColumnStrategy}
    (served : StrategyRegistry.standard.columnFor op = .ok strategy) (left right : Field)
    : FailsOnly (Error.IsOfCondition op) (strategy.build op left right) := by
  rcases StrategyRegistry.standard_columnFor_eq_ok_iff.mp served with
    ⟨rule, _, rfl, rfl⟩ | ⟨asked, rfl⟩
  · simp only [comparison, bne_self_eq_false, Bool.false_eq_true, if_false]
    refine .ite (fun _ => .error rfl) fun _ => ?_
    exact .bind (requireOrdered_failsOnly _ _ _) fun _ _ => .ok _
  · refine .bind (requireText_failsOnly _ _) fun _ _ => .bind (requireText_failsOnly _ _) ?_
    intro _ _
    rcases asked with rfl | rfl <;> exact .ok _

end Strategies

theorem FieldIndex.get_failsOnly {ρ : Type} {op : Operator} (fields : FieldIndex ρ) (name : String)
    : FailsOnly (Error.IsOfCondition op) (fields.get name) := by
  unfold get
  split
  next accessor _ => exact .ok accessor
  next => exact .error trivial

namespace Compiler

variable {ρ : Type} {compiler : Compiler} {fields : FieldIndex ρ}

theorem valuePredicate_failsOnly (standard : compiler.strategies = .standard)
    (condition : Condition) (field : Accessor ρ) (single : condition.operator.isColumn = false)
    (asks : condition.operator.isNullCheck = false)
    : FailsOnly (Error.IsOfCondition condition.operator)
        (compiler.valuePredicate condition field) := by
  unfold valuePredicate
  rw [standard]
  have tests := (Condition.fits_iff.mpr condition.valid).tests
  refine .bind (StrategyRegistry.standard_valueFor_failsOnly single asks tests) ?_
  intro strategy served
  refine .ite (fun _ => .error rfl) fun _ => .ite (fun _ => .error rfl) fun _ => ?_
  refine .bind (Operand.coerce_failsOnly _ _) fun constant _ => ?_
  exact .bind (ValueStrategy.build_failsOnly served _ _) fun test _ => .ok _

/-- The condition names another field wherever its operator compares two. -/
theorem columnPredicate_failsOnly (standard : compiler.strategies = .standard)
    (condition : Condition) (left : Accessor ρ) (compares : condition.operator.isColumn = true)
    : FailsOnly (Error.IsOfCondition condition.operator)
        (compiler.columnPredicate fields condition left) := by
  obtain ⟨other, named, notBlank⟩ :=
    (Condition.fits_iff.mpr condition.valid).compares.mpr compares
  have found : condition.otherField?.filter (!Text.isBlankText ·) = some other := by
    rw [Condition.otherField?, named, Option.filter, notBlank]
    rfl
  unfold columnPredicate
  rw [standard, found]
  refine .bind (fields.get_failsOnly other) fun right _ => ?_
  refine .bind (StrategyRegistry.standard_columnFor_failsOnly compares) fun strategy served => ?_
  exact .bind (ColumnStrategy.build_failsOnly served _ _) fun test _ => .ok _

theorem compileCondition_failsOnly (standard : compiler.strategies = .standard)
    (condition : Condition)
    : FailsOnly (Error.IsOfCondition condition.operator)
        (compiler.compileCondition fields condition) := by
  refine .bind (fields.get_failsOnly condition.field) fun field _ => ?_
  refine .ite (columnPredicate_failsOnly standard condition field) fun single => ?_
  refine .ite (fun _ => .ok _) fun asks => ?_
  exact valuePredicate_failsOnly standard condition field (Bool.eq_false_iff.mpr single)
    (Bool.eq_false_iff.mpr asks)

/-- A reserved operator on a field that is there is the one thing that goes unserved. -/
theorem compileCondition_of_reserved (standard : compiler.strategies = .standard)
    {condition : Condition} {field : Accessor ρ} (found : fields.get? condition.field = some field)
    (reserved : condition.operator ∈ Operator.reserved)
    : compiler.compileCondition fields condition
      = .error (.unsupportedOperator condition.operator .value) := by
  rw [compileCondition, FieldIndex.get_eq_ok_iff.mpr found, ok_bind, valuePredicate, standard]
  simp only [Operator.reserved, List.mem_cons, List.not_mem_nil, or_false] at reserved
  rcases reserved with same | same | same | same <;> rw [same] <;> rfl

theorem combine_failsOnly (m : Matrix) (op : LogicalOperator) (parts : List (Predicate ρ))
    : FailsOnly (Error.IsOfMatrix m) (Predicate.combine op parts) := by
  match op, parts with
  | .and, [] | .or, [] | .not, [] => exact .ok _
  | .and, [_] | .or, [_] | .not, [_] => exact .ok _
  | .and, _ :: _ :: _ | .or, _ :: _ :: _ => exact .ok _
  | .not, _ :: _ :: _ => exact .error (.operandCount ..)

/-- A compilation fails at a condition, at the limit of the depth or at a negation of many parts, by
induction on the levels.
-/
theorem compileWithin_failsOnly (standard : compiler.strategies = .standard) (levels : Nat)
    (m : Matrix)
    : FailsOnly (Error.IsOfMatrix m) (compiler.compileWithin fields levels m) := by
  induction levels generalizing m with
  | zero => exact .error (.depth _)
  | succ levels ih =>
      obtain ⟨op, conditions, nested⟩ := m
      refine .bind (.mapM fun c member => ?_) fun parts _ => ?_
      · refine (compileCondition_failsOnly standard c).imp fun e h => .condition ?_ h
        rw [Matrix.allConditions_node]
        exact List.mem_append_left _ member
      · refine .bind (.mapM fun m' member => ?_) fun subtrees _ => combine_failsOnly _ _ _
        refine (ih m').imp fun e h => ?_
        cases h with
        | condition within h =>
            refine .condition ?_ h
            rw [Matrix.allConditions_node]
            exact List.mem_append_right _ (List.mem_flatMap.mpr ⟨m', member, within⟩)
        | depth limit => exact .depth limit
        | operandCount op count => exact .operandCount op count

end Compiler

/-- However a condition is made, its field is named, its operator is no logical one and it names
another field exactly when the operator compares two. So compilations under the standard strategies
never miss the other field, and never find an operator unserved but a reserved one on a constant,
which goes unserved on every field; nor do they end in faults of documents or of codes.
-/
theorem conditions_fit_and_compile_fails_only
    : (∀ field op operand condition,
        Condition.make field op operand = .ok condition
        ↔ Condition.Fits field op operand
          ∧ condition.field = field
          ∧ condition.operator = op
          ∧ condition.operand = operand)
      ∧ (∀ field op other condition,
          Condition.column field op other = .ok condition
          ↔ Condition.Fits field op (.column other)
            ∧ condition.field = field
            ∧ condition.operator = op
            ∧ condition.operand = .column other)
      ∧ (∀ field condition,
          Condition.isNull field = .ok condition
          ↔ Condition.Fits field .isNull .null
            ∧ condition.field = field
            ∧ condition.operator = .isNull
            ∧ condition.operand = .null)
      ∧ (∀ m,
          (∃ steps, Draft.run steps = .ok m) ∨ (∃ json limit, Matrix.ofJson json limit = .ok m) →
          ∀ c ∈ m.allConditions, Condition.Fits c.field c.operator c.operand)
      ∧ ∀ (ρ : Type) (fields : FieldIndex ρ) (limit : Nat),
          (∀ (m : Matrix) (e : Error),
            (Compiler.standard.withMaxDepth limit).compile fields m = .error e →
            (∀ op field, e ≠ .invalidCondition (.missingColumn op field))
            ∧ (∀ op context,
                e = .unsupportedOperator op context →
                op ∈ Operator.reserved ∧ context = .value ∧ ∃ c ∈ m.allConditions, c.operator = op)
            ∧ (∀ code, e ≠ .unknownOperator code)
            ∧ ∀ fault, e ≠ .serialization fault)
          ∧ ∀ (c : Condition) (field : Accessor ρ),
              fields.get? c.field = some field →
              c.operator ∈ Operator.reserved →
              (Compiler.standard.withMaxDepth limit).compileCondition fields c
                = .error (.unsupportedOperator c.operator .value) := by
  refine ⟨fun _ _ _ _ => Condition.make_eq_ok_iff_fits, fun field op other condition => ?_,
    fun _ _ => Condition.make_eq_ok_iff_fits, fun m _ c _ => Condition.fits_iff.mpr c.valid,
    fun ρ fields limit => ⟨fun m e failed => ?_, fun c field found reserved => ?_⟩⟩
  · rw [Condition.column_eq_make, Condition.make_eq_ok_iff_fits]
  · cases Compiler.compileWithin_failsOnly rfl _ m e failed with
    | condition member h =>
        cases e with
        | invalidCondition fault =>
            refine ⟨fun op field same => ?_, by simp, by simp, by simp⟩
            cases same
            cases h
        | unsupportedOperator op context =>
            obtain ⟨rfl, reserved, rfl⟩ := h
            refine ⟨by simp, fun op context same => ?_, by simp, by simp⟩
            cases same
            exact ⟨reserved, rfl, _, member, rfl⟩
        | unknownOperator _ | depthExceeded _ | serialization _ => cases h
        | unknownField _ _ | valueConversion _ _ | unsupportedValue _ _ => simp
    | depth | operandCount => simp
  · exact Compiler.compileCondition_of_reserved rfl found reserved

end RecordFilter
