import RecordFilter.Proofs.Coercion.Typing
import RecordFilter.Proofs.Compiler.Acceptance
import RecordFilter.Proofs.Compiler.Conditions
import RecordFilter.Proofs.Predicate.Leaves

/-! Types of compiled predicates. Whatever strategies of the library a compiler has and in whichever
order it asks them, its predicates test fields against values of their own types, for an order where
there is one and for a pattern where there is text.
-/

namespace RecordFilter

theorem FieldType.isOrdered_eq_of_same {left right : FieldType} (h : left.same right = true)
    : left.isOrdered = right.isOrdered := by
  unfold same at h
  split at h <;> first | rfl | cases h

theorem FieldType.eq_string_of_isText {type : FieldType} (h : type.isText = true)
    : type = .string := by
  cases type <;> first | rfl | cases h

/-- An ordering comparison is for ordered types only. -/
def Comparison.SuitedTo (comparison : Comparison) (type : FieldType) : Prop :=
  comparison.isOrdering = true → type.isOrdered = true

/-- The tests that make sense for the values of a type. -/
inductive ValueTest.WellTyped (type : FieldType) : ValueTest → Prop
  | compare {comparison : Comparison} {constant : Value} (fits : constant.HasType type)
    (suited : comparison.SuitedTo type)
    : WellTyped type (.compare comparison constant)
  | among {items : List Value} (fit : ∀ item ∈ items, item.HasType type)
    : WellTyped type (.among items)
  | contains {pattern : String} {ignoresCase : Bool} (isText : type = .string)
    : WellTyped type (.contains pattern ignoresCase)
  | not {test : ValueTest} (inner : WellTyped type test) : WellTyped type (.not test)

/-- The tests that make sense for the values of two types. -/
inductive ColumnTest.WellTyped (left right : FieldType) : ColumnTest → Prop
  | compare {comparison : Comparison} (same : left.same right = true)
    (suitedLeft : comparison.SuitedTo left) (suitedRight : comparison.SuitedTo right)
    : WellTyped left right (.compare comparison)
  | contains {ignoresCase : Bool} (leftText : left = .string) (rightText : right = .string)
    : WellTyped left right (.contains ignoresCase)

/-- The tests of declared fields that make sense for their types. A constant is no such test, except
for the one that everything passes.
-/
inductive Predicate.LeafTyped (fields : FieldIndex ρ) : Predicate ρ → Prop
  | constant : LeafTyped fields (.constant true)
  | value {field : Accessor ρ} {test : ValueTest} (declared : field ∈ fields.fields)
    (typed : test.WellTyped field.type)
    : LeafTyped fields (.value field test)
  | column {left right : Accessor ρ} {test : ColumnTest} (declaredLeft : left ∈ fields.fields)
    (declaredRight : right ∈ fields.fields) (typed : test.WellTyped left.type right.type)
    : LeafTyped fields (.column left right test)
  | isNull {field : Accessor ρ} (declared : field ∈ fields.fields)
    : LeafTyped fields (.isNull field)

/-- The strategies of the library for constants, with any rule of comparison. -/
inductive ValueStrategy.BuiltIn : ValueStrategy → Prop
  | comparison (rule : ComparisonRule) : BuiltIn (.comparison rule)
  | membership : BuiltIn .membership
  | exclusion : BuiltIn .exclusion
  | pattern : BuiltIn .pattern

/-- The strategies of the library for two fields, with any rule of comparison. -/
inductive ColumnStrategy.BuiltIn : ColumnStrategy → Prop
  | comparison (rule : ComparisonRule) : BuiltIn (.comparison rule)
  | pattern : BuiltIn .pattern

/-- All strategies are those of the library, in any order and number. -/
structure StrategyRegistry.BuiltIn (registry : StrategyRegistry) : Prop where
  value : ∀ strategy ∈ registry.value, strategy.BuiltIn
  column : ∀ strategy ∈ registry.column, strategy.BuiltIn

section Strategies

variable {op : Operator}

/-- The strategy that serves an operator on constants is one of those that are registered. -/
theorem StrategyRegistry.BuiltIn.of_valueFor {registry : StrategyRegistry}
    (builtIn : registry.BuiltIn) {strategy : ValueStrategy}
    (served : registry.valueFor op = .ok strategy)
    : strategy.BuiltIn :=
  builtIn.value strategy (List.mem_of_find?_eq_some (valueFor_eq_ok_iff.mp served).2)

theorem StrategyRegistry.BuiltIn.of_columnFor {registry : StrategyRegistry}
    (builtIn : registry.BuiltIn) {strategy : ColumnStrategy}
    (served : registry.columnFor op = .ok strategy)
    : strategy.BuiltIn :=
  builtIn.column strategy (List.mem_of_find?_eq_some (columnFor_eq_ok_iff.mp served).2)

theorem ValueStrategy.wellTyped_of_patternTest {pattern : String} {type : FieldType}
    {test : ValueTest} (isText : type = .string) (built : patternTest op pattern = .ok test)
    : test.WellTyped type := by
  unfold patternTest at built
  split at built <;> cases built
  · exact .contains isText
  · exact .contains isText
  · exact .not (.contains isText)

/-- Each strategy makes sense of the constants that have the type it asks for, by cases on the
strategy.
-/
theorem ValueStrategy.wellTyped_of_build {strategy : ValueStrategy} {field : Field}
    {constant : Value} {test : ValueTest} (builtIn : strategy.BuiltIn)
    (fits : constant.HasType (strategy.operandType field))
    (built : strategy.build op field constant = .ok test)
    : test.WellTyped field.type := by
  cases builtIn with
  | comparison rule =>
      obtain ⟨_, suited, rfl⟩ := build_comparison_eq_ok_iff.mp built
      exact .compare fits suited
  | membership =>
      obtain ⟨items, rfl, rfl⟩ := build_membership_eq_ok_iff.mp built
      cases fits with
      | array each => exact .among each
  | exclusion =>
      obtain ⟨items, rfl, rfl⟩ := build_exclusion_eq_ok_iff.mp built
      cases fits with
      | array each => exact .not (.among each)
  | pattern =>
      obtain ⟨isText, text, _, searched⟩ := build_pattern_eq_ok_iff.mp built
      exact wellTyped_of_patternTest (FieldType.eq_string_of_isText isText) searched

/-- Each strategy checks the types of both fields, by cases on the strategy. -/
theorem ColumnStrategy.wellTyped_of_build {strategy : ColumnStrategy} {left right : Field}
    {test : ColumnTest} (builtIn : strategy.BuiltIn)
    (built : strategy.build op left right = .ok test)
    : test.WellTyped left.type right.type := by
  cases builtIn with
  | comparison rule =>
      obtain ⟨_, same, suited, rfl⟩ := build_comparison_eq_ok_iff.mp built
      refine .compare same suited fun orders => ?_
      rw [← FieldType.isOrdered_eq_of_same same]
      exact suited orders
  | pattern =>
      obtain ⟨leftText, rightText, searched⟩ := build_pattern_eq_ok_iff.mp built
      have texts := And.intro (FieldType.eq_string_of_isText leftText)
        (FieldType.eq_string_of_isText rightText)
      rcases searched with ⟨_, rfl⟩ | ⟨_, rfl⟩
      · exact .contains texts.1 texts.2
      · exact .contains texts.1 texts.2

end Strategies

section Compiled

variable {ρ : Type} {compiler : Compiler} {fields : FieldIndex ρ} {p : Predicate ρ}

theorem Predicate.LeafTyped.leaves_eq (h : p.LeafTyped fields) : p.leaves = [p] := by
  cases h <;> rfl

/-- A condition compiles to one test, and it makes sense. -/
theorem Compiler.leafTyped_of_compileCondition {condition : Condition}
    (builtIn : compiler.strategies.BuiltIn)
    (compiled : compiler.compileCondition fields condition = .ok p)
    : p.LeafTyped fields := by
  obtain ⟨field, found, compiled⟩ := bind_eq_ok_iff.mp compiled
  have declared := FieldIndex.mem_fields_of_get? (FieldIndex.get_eq_ok_iff.mp found)
  split at compiled
  · obtain ⟨_, right, strategy, test, _, _, foundOther, served, built, rfl⟩ :=
      columnPredicate_eq_ok_iff.mp compiled
    exact .column declared (FieldIndex.mem_fields_of_get? foundOther)
      (ColumnStrategy.wellTyped_of_build (builtIn.of_columnFor served) built)
  · split at compiled
    · cases compiled
      exact .isNull declared
    · obtain ⟨strategy, constant, test, served, _, taken, built, rfl⟩ :=
        valuePredicate_eq_ok_iff.mp compiled
      exact .value declared
        (ValueStrategy.wellTyped_of_build (builtIn.of_valueFor served)
          (Operand.hasType_of_coerce taken) built)

/-- Combining parts adds no test that does not make sense. -/
theorem Predicate.leafTyped_of_combine {op : LogicalOperator} {parts : List (Predicate ρ)}
    (combined : combine op parts = .ok p)
    (each : ∀ part ∈ parts, ∀ leaf ∈ part.leaves, leaf.LeafTyped fields)
    : ∀ leaf ∈ p.leaves, leaf.LeafTyped fields := by
  rw [leaves_combine combined]
  split
  · intro leaf member
    rw [List.mem_singleton.mp member]
    exact .constant
  · intro leaf member
    obtain ⟨part, among, member⟩ := List.mem_flatMap.mp member
    exact each part among leaf member

/-- Within any number of levels the tests of a compiled matrix make sense, as those of its parts do.
-/
theorem Compiler.leafTyped_of_compileWithin {levels : Nat} {m : Matrix}
    (builtIn : compiler.strategies.BuiltIn)
    (compiled : compiler.compileWithin fields levels m = .ok p)
    : ∀ leaf ∈ p.leaves, leaf.LeafTyped fields := by
  refine compileWithin_induction ?_ compiled
  intro op conditions nested parts subtrees p hc hn combined
  apply Predicate.leafTyped_of_combine combined
  have ofConditions : ∀ part ∈ parts, ∀ leaf ∈ part.leaves, leaf.LeafTyped fields := by
    refine forall_of_forall₂ hc ?_
    intro tested _ part compiled leaf member
    have typed := leafTyped_of_compileCondition builtIn compiled
    rw [typed.leaves_eq, List.mem_singleton] at member
    rw [member]
    exact typed
  have ofNested : ∀ part ∈ subtrees, ∀ leaf ∈ part.leaves, leaf.LeafTyped fields :=
    forall_of_forall₂ hn fun _ _ _ below => below
  exact List.forall_mem_append.mpr ⟨ofConditions, ofNested⟩

/-- Every test of a compiled predicate makes sense for the declared types of its fields, and every
constant in it is true, for compilers of any strategies of the library.
-/
theorem Compiler.compile_leafTyped (compiler : Compiler)
    (builtIn : compiler.strategies.BuiltIn) (fields : FieldIndex ρ) (m : Matrix)
    (compiled : compiler.compile fields m = .ok p)
    : ∀ leaf ∈ p.leaves, leaf.LeafTyped fields :=
  leafTyped_of_compileWithin builtIn compiled

/-- Strategies that let an operator on text ask for an order still keep it to an ordered field. -/
theorem Compiler.compile_leafTyped_of_order_on_like
    : let status : EnumType := ⟨"Status", [("Active", 1)]⟩
      let age : Accessor (Value × Value) := ⟨⟨"age", .int32, true⟩, Prod.fst⟩
      let state : Accessor (Value × Value) := ⟨⟨"status", .enum status, true⟩, Prod.snd⟩
      let fields : FieldIndex (Value × Value) := ⟨"Person", [age, state]⟩
      let below : ComparisonRule := ⟨.lessThan, .like, .columnLike⟩
      let compiler : Compiler := ⟨⟨[.comparison below, .exclusion], [.comparison below]⟩, 2⟩
      let young : Condition := ⟨"age", .like, .single (.int 18), by decide⟩
      let away : Condition :=
        ⟨"status", .notWithin, .array [.string "active", .json .null], by decide⟩
      let m := Matrix.node .and [young, away] [.empty]
      let p :=
        Predicate.and [
          .value age (.compare .lessThan (.int32 18)),
          .value state (.not (.among [.enum ⟨status, 1⟩, .null])),
          .constant true
        ]
      compiler.strategies.BuiltIn
      ∧ compiler.compile fields m = .ok p
      ∧ ∀ leaf ∈ p.leaves, leaf.LeafTyped fields := by
  dsimp only
  refine ⟨?builtIn, ?compiled, compile_leafTyped _ ?builtIn _ _ ?compiled⟩
  case builtIn =>
    constructor
    · simpa using ⟨.comparison _, .exclusion⟩
    · simpa using .comparison _
  case compiled => rfl

end Compiled

end RecordFilter
