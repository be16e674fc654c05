import RecordFilter.Proofs.CarryOver
import RecordFilter.Proofs.Predicate.Narrowing

/-! Compilers that are widened by further strategies or further fields. What compiles keeps its
predicate, and what fails keeps its error, except for errors that the widening may cure.
-/

namespace RecordFilter

variable {ρ ρ' : Type}

/-- The second compiler over its fields does all that the first one does over its own: what is found
by a name and what serves an operator stay the same, and only curable errors may become something
else.
-/
structure Widens (curable : Error → Prop) (narrow : ρ' → ρ) (compiler compiler' : Compiler)
    (fields : FieldIndex ρ) (fields' : FieldIndex ρ')
    : Prop where
  limit : compiler'.maxDepth = compiler.maxDepth
  found
    : ∀ name, CarriesOver curable (Accessor.comap narrow) (fields.get name) (fields'.get name)
  valueServed
    : ∀ op,
        CarriesOver curable id (compiler.strategies.valueFor op)
          (compiler'.strategies.valueFor op)
  columnServed
    : ∀ op,
        CarriesOver curable id (compiler.strategies.columnFor op)
          (compiler'.strategies.columnFor op)

namespace Widens

variable {curable : Error → Prop} {narrow : ρ' → ρ} {compiler compiler' : Compiler}
  {fields : FieldIndex ρ} {fields' : FieldIndex ρ'}

/-- The other field is found and its type is checked alike. -/
theorem columnPredicate (h : Widens curable narrow compiler compiler' fields fields')
    (condition : Condition) (left : Accessor ρ)
    : CarriesOver curable (Predicate.comap narrow)
        (compiler.columnPredicate fields condition left)
        (compiler'.columnPredicate fields' condition (left.comap narrow)) := by
  unfold Compiler.columnPredicate
  cases condition.otherField?.filter (!Text.isBlankText ·) with
  | none => exact .error _
  | some other =>
      apply (h.found other).bind
      intro right
      apply (h.columnServed condition.operator).bind
      intro strategy
      apply (CarriesOver.refl _).bind
      intro test
      exact .ok _

/-- The operand is checked and taken alike once the strategy is there. -/
theorem valuePredicate (h : Widens curable narrow compiler compiler' fields fields')
    (condition : Condition) (field : Accessor ρ)
    : CarriesOver curable (Predicate.comap narrow)
        (compiler.valuePredicate condition field)
        (compiler'.valuePredicate condition (field.comap narrow)) := by
  unfold Compiler.valuePredicate
  apply (h.valueServed condition.operator).bind
  intro strategy
  apply CarriesOver.ite
  · intro missing
    exact .error _
  · intro shaped
    apply CarriesOver.ite
    · intro stray
      exact .error _
    · intro single
      apply (CarriesOver.refl _).bind
      intro constant
      apply (CarriesOver.refl _).bind
      intro test
      exact .ok _

/-- A condition carries over, by the fields that it finds and the strategy that serves it. -/
theorem compileCondition (h : Widens curable narrow compiler compiler' fields fields')
    (condition : Condition)
    : CarriesOver curable (Predicate.comap narrow)
        (compiler.compileCondition fields condition)
        (compiler'.compileCondition fields' condition) := by
  unfold Compiler.compileCondition
  apply (h.found condition.field).bind
  intro field
  apply CarriesOver.ite
  · intro comparesFields
    exact h.columnPredicate condition field
  · intro single
    apply CarriesOver.ite
    · intro asksForNull
      exact .ok _
    · intro takesValue
      exact h.valuePredicate condition field

/-- A matrix carries over within any number of levels, by induction on the levels. -/
theorem compileWithin (h : Widens curable narrow compiler compiler' fields fields') (levels : Nat)
    (m : Matrix)
    : CarriesOver curable (Predicate.comap narrow)
        (compiler.compileWithin fields levels m) (compiler'.compileWithin fields' levels m) := by
  induction levels generalizing m with
  | zero =>
      rw [Compiler.compileWithin, Compiler.compileWithin, h.limit]
      exact .error _
  | succ levels ih =>
      rw [Compiler.compileWithin, Compiler.compileWithin]
      apply (CarriesOver.mapM fun condition _ => h.compileCondition condition).bind
      intro parts
      apply (CarriesOver.mapM fun m _ => ih m).bind
      intro subtrees
      rw [← List.map_append, Predicate.combine_map_comap]
      exact .map _ _

/-- A whole compilation carries over. -/
theorem compile (h : Widens curable narrow compiler compiler' fields fields') (m : Matrix)
    : CarriesOver curable (Predicate.comap narrow)
        (compiler.compile fields m) (compiler'.compile fields' m) := by
  rw [Compiler.compile, Compiler.compile, h.limit]
  exact h.compileWithin compiler.maxDepth m

/-- What compiles keeps its predicate. -/
theorem compile_eq_ok (h : Widens curable narrow compiler compiler' fields fields') {m : Matrix}
    {p : Predicate ρ} (compiled : compiler.compile fields m = .ok p)
    : compiler'.compile fields' m = .ok (p.comap narrow) := by
  have outcome := h.compile m
  rw [compiled] at outcome
  exact outcome.eq_ok

/-- What fails keeps an error that is not cured. -/
theorem compile_eq_error (h : Widens curable narrow compiler compiler' fields fields') {m : Matrix}
    {e : Error} (failed : compiler.compile fields m = .error e) (lasting : ¬curable e)
    : compiler'.compile fields' m = .error e := by
  have outcome := h.compile m
  rw [failed] at outcome
  exact outcome.eq_error lasting

end Widens

end RecordFilter
