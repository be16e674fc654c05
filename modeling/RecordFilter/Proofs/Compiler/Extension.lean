import RecordFilter.Proofs.Compiler.Layout
import RecordFilter.Proofs.Compiler.Meaning
import RecordFilter.Proofs.Compiler.Widening
import RecordFilter.Proofs.Schema.Extension

/-! Matrices over schemas that are extended by further fields. Their predicates stay the same and
ask for nothing but the fields that the matrix names, so that further fields never show in a
verdict.
-/

namespace RecordFilter

variable {ρ ρ' : Type}

/-- The names of fields in a condition. -/
def Condition.names (condition : Condition) : List String :=
  condition.field :: condition.otherField?.toList

/-- The names of fields in all conditions of a matrix. -/
def Matrix.names (m : Matrix) : List String :=
  m.allConditions.flatMap Condition.names

/-- Two records hold the same in the fields that are found by some names. -/
def FieldIndex.Agree (fields : FieldIndex ρ) (names : List String) (record other : ρ) : Prop :=
  ∀ name ∈ names, ∀ field, fields.get? name = some field → field.read record = field.read other

theorem FieldIndex.Agree.of_subset {fields : FieldIndex ρ} {names fewer : List String}
    {record other : ρ} (agree : fields.Agree names record other) (among : fewer ⊆ names)
    : fields.Agree fewer record other :=
  fun name member => agree name (among member)

theorem Matrix.names_node (op : LogicalOperator) (conditions : List Condition)
    (nested : List Matrix)
    : (node op conditions nested).names
      = conditions.flatMap Condition.names ++ nested.flatMap names := by
  rw [names, allConditions_node, List.flatMap_append, List.flatMap_assoc]
  rfl

namespace Compiler

variable {compiler : Compiler} {fields : FieldIndex ρ} {record other : ρ} {p : Predicate ρ}

/-- A condition tests the fields that it names and no others. -/
theorem accepts_eq_of_compileCondition {tested : Condition}
    (compiled : compiler.compileCondition fields tested = .ok p)
    (agree : fields.Agree tested.names record other)
    : p.accepts record = p.accepts other := by
  have own {field : Accessor ρ} (found : fields.get? tested.field = some field)
      : field.read record = field.read other :=
    agree tested.field List.mem_cons_self field found
  cases filledBy_of_compileCondition compiled with
  | value found => rw [Predicate.accepts, Predicate.accepts, own found]
  | isNull found => rw [Predicate.accepts, Predicate.accepts, own found]
  | @column _ name left right _ _ found named foundOther =>
      have compared : name ∈ tested.names := by
        simp [Condition.names, Condition.otherField?, named]
      rw [Predicate.accepts, Predicate.accepts, own found, agree name compared right foundOther]

/-- A compiled matrix tells no records apart that hold the same in the fields that it names, by
induction on the compilation.
-/
theorem accepts_eq_of_compileWithin {levels : Nat} {m : Matrix}
    (compiled : compiler.compileWithin fields levels m = .ok p)
    (agree : fields.Agree m.names record other)
    : p.accepts record = p.accepts other := by
  revert agree
  refine compileWithin_induction ?_ compiled
  intro op conditions nested parts subtrees p hc hn combined agree
  rw [Matrix.names_node] at agree
  have ofConditions : ∀ part ∈ parts, part.accepts record = part.accepts other := by
    refine forall_of_forall₂ hc ?_
    intro tested member part compiled
    apply accepts_eq_of_compileCondition compiled
    apply agree.of_subset
    intro name named
    exact List.mem_append_left _ (List.mem_flatMap.mpr ⟨tested, member, named⟩)
  have ofNested : ∀ part ∈ subtrees, part.accepts record = part.accepts other := by
    refine forall_of_forall₂ hn ?_
    intro m member part below
    apply below
    apply agree.of_subset
    intro name named
    exact List.mem_append_right _ (List.mem_flatMap.mpr ⟨m, member, named⟩)
  apply Predicate.accepts_eq_of_combine combined combined
  rw [List.map_congr_left (List.forall_mem_append.mpr ⟨ofConditions, ofNested⟩)]

/-- Further fields widen the fields that a compiler works over. -/
theorem widens_extend (compiler : Compiler) (schema : Schema ρ) (narrow : ρ' → ρ)
    (more : List (Accessor ρ'))
    : Widens Error.IsUnknownField narrow compiler compiler (.ofSchema schema)
        (.ofSchema (schema.extend narrow more)) where
  limit := rfl
  found := FieldIndex.get_extend schema narrow more
  valueServed op := .refl (compiler.strategies.valueFor op)
  columnServed op := .refl (compiler.strategies.columnFor op)

/-- Appending fields to a schema takes nothing back. A matrix that compiles keeps its predicate,
which reads the wider records for what they were before and tells no records apart that hold the
same in the fields that the matrix names. A matrix that fails for anything else than an unknown
field fails alike.
-/
theorem compile_extend_conservative (compiler : Compiler) (schema : Schema ρ) (narrow : ρ' → ρ)
    (more : List (Accessor ρ')) (m : Matrix)
    : let fields := FieldIndex.ofSchema schema
      let fields' := FieldIndex.ofSchema (schema.extend narrow more)
      (∀ p,
          compiler.compile fields m = .ok p →
          compiler.compile fields' m = .ok (p.comap narrow)
          ∧ (∀ record, (p.comap narrow).accepts record = p.accepts (narrow record))
          ∧ ∀ record other,
              fields.Agree m.names record other → p.accepts record = p.accepts other)
      ∧ ∀ e,
          compiler.compile fields m = .error e →
          (∀ name record, e ≠ .unknownField name record) →
          compiler.compile fields' m = .error e := by
  intro fields fields'
  have widened := compiler.widens_extend schema narrow more
  constructor
  · intro p compiled
    refine ⟨widened.compile_eq_ok compiled, fun record => p.accepts_comap narrow record, ?_⟩
    intro record other agree
    exact accepts_eq_of_compileWithin compiled agree
  · intro e failed found
    apply widened.compile_eq_error failed
    intro ⟨name, record, unknown⟩
    exact found name record unknown

/-- A record of an age gets a name and a second age, which is written in capitals and not found. -/
theorem compile_extend_conservative_of_capitals
    : let age : Accessor Value := ⟨⟨"age", .int32, true⟩, id⟩
      let schema : Schema Value := ⟨"Person", [age]⟩
      let narrow : Value × Value × Value → Value := Prod.fst
      let capitals : Accessor (Value × Value × Value) := ⟨⟨"AGE", .string, true⟩, fun r => r.2.1⟩
      let name : Accessor (Value × Value × Value) := ⟨⟨"name", .string, true⟩, fun r => r.2.2⟩
      let fields := FieldIndex.ofSchema schema
      let fields' := FieldIndex.ofSchema (schema.extend narrow [capitals, name])
      let compiler := standard.withMaxDepth 1
      let adult : Condition := ⟨"Age", .greaterThan, .single (.int 17), by decide⟩
      let written : Condition := ⟨"age", .like, .pattern "1", by decide⟩
      let m := Matrix.node .not [adult] []
      let broken := Matrix.node .not [written] []
      let p := Predicate.not (.value age (.compare .greaterThan (.int32 17)))
      let e := Error.invalidCondition (.notTextField .like age.field)
      compiler.compile fields m = .ok p
      ∧ compiler.compile fields' m = .ok (p.comap narrow)
      ∧ (∀ record, (p.comap narrow).accepts record = p.accepts (narrow record))
      ∧ (∀ record other, fields.Agree m.names record other → p.accepts record = p.accepts other)
      ∧ compiler.compile fields broken = .error e
      ∧ compiler.compile fields' broken = .error e := by
  intro age schema narrow capitals name fields fields' compiler adult written m broken p e
  have compiled : compiler.compile fields m = .ok p := by
    dsimp only [age, schema, fields, compiler, adult, m, p]
    rfl
  have failed : compiler.compile fields broken = .error e := by
    dsimp only [age, schema, fields, compiler, written, broken, e]
    rfl
  have keeps := compile_extend_conservative compiler schema narrow [capitals, name]
  obtain ⟨compiled', verdicts, agree⟩ := (keeps m).1 p compiled
  refine ⟨compiled, compiled', verdicts, agree, failed, (keeps broken).2 e failed ?_⟩
  simp [e]

end Compiler

end RecordFilter
