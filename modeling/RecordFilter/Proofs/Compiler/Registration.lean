import RecordFilter.Proofs.Compiler.Widening

/-! Strategies that are registered after others. They serve the operators that had no strategy and
are never asked for the others, so that matrices that compile keep their predicates and only the
error for a missing strategy may become something else.
-/

namespace RecordFilter

/-- The error for an operator without a strategy. -/
def Error.IsUnserved (e : Error) : Prop :=
  ∃ op context, e = .unsupportedOperator op context

namespace StrategyRegistry

/-- Registers strategies one by one after those that are there. -/
def registerAll (registry : StrategyRegistry) (values : List ValueStrategy)
    (columns : List ColumnStrategy)
    : StrategyRegistry :=
  columns.foldl registerColumn (values.foldl registerValue registry)

theorem foldl_registerValue (registry : StrategyRegistry) (values : List ValueStrategy)
    : values.foldl registerValue registry
      = { registry with value := registry.value ++ values } := by
  induction values generalizing registry with
  | nil => simp
  | cons strategy rest ih => simp [ih, registerValue]

theorem foldl_registerColumn (registry : StrategyRegistry) (columns : List ColumnStrategy)
    : columns.foldl registerColumn registry
      = { registry with column := registry.column ++ columns } := by
  induction columns generalizing registry with
  | nil => simp
  | cons strategy rest ih => simp [ih, registerColumn]

/-- What is registered later stands behind what was there. -/
theorem registerAll_eq (registry : StrategyRegistry) (values : List ValueStrategy)
    (columns : List ColumnStrategy)
    : registry.registerAll values columns
      = ⟨registry.value ++ values, registry.column ++ columns⟩ := by
  rw [registerAll, foldl_registerValue, foldl_registerColumn]

variable (registry : StrategyRegistry) (values : List ValueStrategy)
  (columns : List ColumnStrategy) (op : Operator)

/-- An operator that has a strategy keeps it, since the first one that handles it is asked. -/
theorem valueFor_registerAll
    : CarriesOver Error.IsUnserved id (registry.valueFor op)
        ((registry.registerAll values columns).valueFor op) := by
  rw [registerAll_eq, valueFor, valueFor]
  apply CarriesOver.ite
  · intro served
    rw [List.find?_append]
    cases registry.value.find? (·.handles op) with
    | some strategy => exact .ok strategy
    | none => exact .cured ⟨op, .value, rfl⟩ _
  · intro never
    exact .error _

/-- The same holds of the strategies for two fields. -/
theorem columnFor_registerAll
    : CarriesOver Error.IsUnserved id (registry.columnFor op)
        ((registry.registerAll values columns).columnFor op) := by
  rw [registerAll_eq, columnFor, columnFor]
  apply CarriesOver.ite
  · intro served
    rw [List.find?_append]
    cases registry.column.find? (·.handles op) with
    | some strategy => exact .ok strategy
    | none => exact .cured ⟨op, .column, rfl⟩ _
  · intro never
    exact .error _

end StrategyRegistry

namespace Compiler

variable {ρ : Type}

/-- Further strategies behind the others widen a compiler over the same fields. -/
theorem widens_registerAll (registry : StrategyRegistry) (limit : Nat)
    (values : List ValueStrategy) (columns : List ColumnStrategy) (fields : FieldIndex ρ)
    : Widens Error.IsUnserved id ⟨registry, limit⟩ ⟨registry.registerAll values columns, limit⟩
        fields fields where
  limit := rfl
  found name := .refl (fields.get name)
  valueServed := registry.valueFor_registerAll values columns
  columnServed := registry.columnFor_registerAll values columns

/-- Registering strategies after others takes nothing back. A matrix that compiles keeps its
predicate, and one that fails for anything else than a missing strategy fails alike.
-/
theorem compile_registerAll_conservative (registry : StrategyRegistry) (limit : Nat)
    (values : List ValueStrategy) (columns : List ColumnStrategy) (fields : FieldIndex ρ)
    (m : Matrix)
    : let compiler : Compiler := ⟨registry, limit⟩
      let compiler' : Compiler := ⟨registry.registerAll values columns, limit⟩
      (∀ p, compiler.compile fields m = .ok p → compiler'.compile fields m = .ok p)
      ∧ ∀ e,
          compiler.compile fields m = .error e →
          (∀ op context, e ≠ .unsupportedOperator op context) →
          compiler'.compile fields m = .error e := by
  intro compiler compiler'
  have widened := widens_registerAll registry limit values columns fields
  constructor
  · intro p compiled
    rw [widened.compile_eq_ok compiled, Predicate.comap_id]
  · intro e failed served
    apply widened.compile_eq_error failed
    intro ⟨op, context, unserved⟩
    exact served op context unserved

/-- A rule that takes equality for its opposite comes too late to be asked, and a negation of two
conditions stays an error.
-/
theorem compile_registerAll_conservative_of_opposite_rule
    : let age : Accessor Value := ⟨⟨"age", .int32, true⟩, id⟩
      let fields : FieldIndex Value := ⟨"Person", [age]⟩
      let registry : StrategyRegistry := ⟨[.comparison .equal], []⟩
      let opposite : ComparisonRule := ⟨.notEqual, .equal, .columnEqual⟩
      let compiler : Compiler := ⟨registry, 1⟩
      let values : List ValueStrategy := [.comparison opposite, .membership]
      let columns : List ColumnStrategy := [.comparison opposite]
      let compiler' : Compiler := ⟨registry.registerAll values columns, 1⟩
      let grown : Condition := ⟨"age", .equal, .single (.int 18), by decide⟩
      let one := Matrix.node .not [grown] []
      let two := Matrix.node .not [grown, grown] []
      let p := Predicate.not (.value age (.compare .equal (.int32 18)))
      let e := Error.invalidCondition (.operandCount .not 2)
      compiler.compile fields one = .ok p
      ∧ compiler'.compile fields one = .ok p
      ∧ compiler.compile fields two = .error e
      ∧ compiler'.compile fields two = .error e := by
  intro age fields registry opposite compiler values columns compiler' grown one two p e
  have compiled : compiler.compile fields one = .ok p := by
    dsimp only [age, fields, registry, compiler, grown, one, p]
    rfl
  have failed : compiler.compile fields two = .error e := by
    dsimp only [age, fields, registry, compiler, grown, two, e]
    rfl
  have keeps := compile_registerAll_conservative registry 1 values columns fields
  refine ⟨compiled, (keeps one).1 p compiled, failed, (keeps two).2 e failed ?_⟩
  simp [e]

end Compiler

end RecordFilter
