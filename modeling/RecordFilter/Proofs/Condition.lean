import RecordFilter.Condition.Basic

/-! Which fields, operators and operands go together in a condition: the field is named, the
operator is no logical one, and it compares fields exactly when the operand names one.
-/

namespace RecordFilter

/-- No rule is broken when all names are there and the operand is of the kind that the operator asks
for.
-/
theorem ConditionFault.of?_eq_none_iff {field : String} {op : Operator} {operand : Operand}
    : of? field op operand = none
      ↔ Text.isBlankText field = false
        ∧ op.isLogical = false
        ∧ (op.isColumn = true ↔ ∃ name, operand = .column name)
        ∧ ∀ name, operand = .column name → Text.isBlankText name = false := by
  unfold of?
  cases Text.isBlankText field with
  | true => simp
  | false =>
      cases op.isLogical with
      | true => simp
      | false =>
          cases operand with
          | column name => cases op.isColumn <;> cases Text.isBlankText name <;> simp
          | null | single _ | array _ | pattern _ => cases op.isColumn <;> simp

namespace Condition

/-- A named field, an operator that tests it, and the name of another field exactly when the
operator compares fields.
-/
structure Fits (field : String) (op : Operator) (operand : Operand) : Prop where
  named : Text.isBlankText field = false
  tests : op.isLogical = false
  compares
    : (∃ other, operand = .column other ∧ Text.isBlankText other = false) ↔ op.isColumn = true
  alone : op.isColumn = false → ∀ other, operand ≠ .column other

/-- Parts that break no rule go together. -/
theorem fits_iff {field : String} {op : Operator} {operand : Operand}
    : Fits field op operand ↔ ConditionFault.of? field op operand = none := by
  rw [ConditionFault.of?_eq_none_iff]
  constructor
  · intro ⟨named, tests, compares, alone⟩
    refine ⟨named, tests, ⟨fun asked => ?_, ?_⟩, ?_⟩
    · obtain ⟨other, same, _⟩ := compares.mpr asked
      exact ⟨other, same⟩
    · intro ⟨other, same⟩
      cases asked : op.isColumn with
      | false => exact absurd same (alone asked other)
      | true => rfl
    · intro other same
      cases asked : op.isColumn with
      | false => exact absurd same (alone asked other)
      | true =>
          obtain ⟨other', same', notBlank⟩ := compares.mpr asked
          rw [same, Operand.column.injEq] at same'
          rwa [same']
  · intro ⟨named, tests, compares, notBlank⟩
    refine ⟨named, tests, ⟨fun ⟨other, same, _⟩ => compares.mpr ⟨other, same⟩, fun asked => ?_⟩, ?_⟩
    · obtain ⟨other, same⟩ := compares.mp asked
      exact ⟨other, same, notBlank other same⟩
    · intro single other same
      rw [compares.mpr ⟨other, same⟩] at single
      cases single

/-- A condition is made of parts that break no rule, and of these only. -/
theorem make_eq_ok_iff {field : String} {op : Operator} {operand : Operand}
    {condition : Condition}
    : make field op operand = .ok condition
      ↔ condition.field = field ∧ condition.operator = op ∧ condition.operand = operand := by
  unfold make
  split
  next valid =>
    obtain ⟨_, _, _, _⟩ := condition
    simp [eq_comm]
  next fault broken =>
    refine ⟨fun h => (nomatch h), fun h => ?_⟩
    obtain ⟨rfl, rfl, rfl⟩ := h
    rw [condition.valid] at broken
    cases broken

/-- Making a condition succeeds for parts that go together, and keeps them. -/
theorem make_eq_ok_iff_fits {field : String} {op : Operator} {operand : Operand}
    {condition : Condition}
    : make field op operand = .ok condition
      ↔ Fits field op operand
        ∧ condition.field = field
        ∧ condition.operator = op
        ∧ condition.operand = operand := by
  rw [make_eq_ok_iff]
  refine ⟨fun h => ⟨?_, h⟩, fun h => h.2⟩
  obtain ⟨rfl, rfl, rfl⟩ := h
  exact fits_iff.mpr condition.valid

/-- A comparison of two fields needs an operator that compares, which its parts cannot do without
anyway.
-/
theorem column_eq_make (field : String) (op : Operator) (other : String) {condition : Condition}
    : column field op other = .ok condition ↔ make field op (.column other) = .ok condition := by
  unfold column
  split
  next => rfl
  next single =>
    refine ⟨fun h => (nomatch h), fun made => ?_⟩
    exact absurd rfl ((make_eq_ok_iff_fits.mp made).1.alone (Bool.eq_false_iff.mpr single) other)

theorem isColumn_iff (condition : Condition)
    : condition.operator.isColumn = true ↔ ∃ name, condition.operand = .column name :=
  (ConditionFault.of?_eq_none_iff.mp condition.valid).2.2.1

/-- A condition names no blank field to compare with. -/
theorem isBlankText_column (condition : Condition) {other : String}
    (named : condition.operand = .column other)
    : Text.isBlankText other = false :=
  (ConditionFault.of?_eq_none_iff.mp condition.valid).2.2.2 other named

/-- The field and the operator of a condition that compares no two fields go with every operand that
names none.
-/
theorem exists_withOperand (condition : Condition) (operand : Operand)
    (alone : condition.operator.isColumn = false) (unnamed : ∀ name, operand ≠ .column name)
    : ∃ result : Condition,
        result.field = condition.field
        ∧ result.operator = condition.operator
        ∧ result.operand = operand := by
  obtain ⟨notBlank, notLogical, _⟩ := ConditionFault.of?_eq_none_iff.mp condition.valid
  have valid : ConditionFault.of? condition.field condition.operator operand = none := by
    simp [ConditionFault.of?_eq_none_iff, notBlank, notLogical, alone, unnamed]
  exact ⟨⟨condition.field, condition.operator, operand, valid⟩, rfl, rfl, rfl⟩

end Condition

end RecordFilter
