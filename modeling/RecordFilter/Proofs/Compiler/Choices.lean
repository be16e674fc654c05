import RecordFilter.Proofs.Compiler.Errors
import RecordFilter.Proofs.Compiler.Single
import RecordFilter.Proofs.Compiler.Typing
import RecordFilter.Proofs.Schema.Lookup
import RecordFilter.Schema.Choices

/-! The operators that are offered for a field, beside those that filters can apply to it. None that
a filter can apply is missing, and of those that take a constant or ask for null none is offered in
vain unless no strategy serves it.
-/

namespace RecordFilter

/-- Filters can apply an operator to a field: there are a schema, a name that finds the field in it
and an operand with which a condition compiles.
-/
def Field.Takes (field : Field) (op : Operator) : Prop :=
  ∃ (ρ : Type) (schema : Schema ρ) (accessor : Accessor ρ) (name : String) (operand : Operand)
    (p : Predicate ρ),
    (FieldIndex.ofSchema schema).get? name = some accessor
    ∧ accessor.field = field
    ∧ Compiler.compileOne (FieldIndex.ofSchema schema) name op operand = .ok p

theorem Field.mem_operators_iff {field : Field} {op : Operator}
    : op ∈ field.operators ↔ op.suits field.type = true := by
  have known : op ∈ Operator.all := by
    cases op <;> simp [Operator.all]
  simp [operators, known]

theorem Comparison.suits_valueOperator (comparison : Comparison) (type : FieldType)
    : comparison.valueOperator.suits type = true
      ↔ (comparison.isOrdering = true → type.isOrdered = true) := by
  cases comparison <;>
    simp [valueOperator, isOrdering, Operator.suits, Operator.kind, Operator.isOrdering]

section Suited

variable {type : FieldType} {operand : Operand} {op : Operator}

/-- An operator suits the types that it builds a test for. -/
theorem ValueTest.Built.suits {test : ValueTest} (built : Built type operand op test)
    : op.suits type = true := by
  cases built with
  | @comparison rule constant known single taken ordered =>
      obtain ⟨comparison, rfl⟩ := ComparisonRule.mem_all_iff.mp known
      exact (comparison.suits_valueOperator type).mpr ordered
  | within | notWithin => rfl
  | like _ isText | likeIgnoringCase _ isText | notLike _ isText => exact isText

/-- Null can be compared where the comparison suits the type. -/
theorem ValueTest.built_null {comparison : Comparison}
    (suited : comparison.valueOperator.suits type = true)
    : Built type .null comparison.valueOperator (.compare comparison .null) :=
  built_comparison_iff.mpr
    ⟨rfl, (comparison.suits_valueOperator type).mp suited, .null, rfl, rfl⟩

/-- An operator on constants that is served builds a test for some operand where it suits the type:
for null, for the empty list or for the empty pattern.
-/
theorem ValueTest.exists_built (suited : op.suits type = true)
    (onConstants : op.kind = .comparison ∨ op.kind = .text) (served : op ∉ Operator.reserved)
    : ∃ operand test, Built type operand op test := by
  cases op with
  | equal => exact ⟨_, _, @built_null _ .equal suited⟩
  | notEqual => exact ⟨_, _, @built_null _ .notEqual suited⟩
  | greaterThan => exact ⟨_, _, @built_null _ .greaterThan suited⟩
  | lessThan => exact ⟨_, _, @built_null _ .lessThan suited⟩
  | greaterThanOrEqual => exact ⟨_, _, @built_null _ .greaterThanOrEqual suited⟩
  | lessThanOrEqual => exact ⟨_, _, @built_null _ .lessThanOrEqual suited⟩
  | within => exact ⟨.array [], _, .within rfl rfl⟩
  | notWithin => exact ⟨.array [], _, .notWithin rfl rfl⟩
  | like =>
      obtain rfl := FieldType.eq_string_of_isText suited
      exact ⟨.pattern "", _, .like rfl rfl rfl⟩
  | likeIgnoringCase =>
      obtain rfl := FieldType.eq_string_of_isText suited
      exact ⟨.pattern "", _, .likeIgnoringCase rfl rfl rfl⟩
  | notLike =>
      obtain rfl := FieldType.eq_string_of_isText suited
      exact ⟨.pattern "", _, .notLike rfl rfl rfl⟩
  | similar | notSimilar | regex | regexIgnoringCase =>
      exact absurd (by simp [Operator.reserved]) served
  | _ => rcases onConstants with h | h <;> cases h

end Suited

variable {ρ : Type} {fields : FieldIndex ρ} {field : Accessor ρ} {name : String} {op : Operator}

/-- The operator of a condition that compiles suits the type of the field that is found. -/
theorem Condition.CompilesTo.suits {condition : Condition} {p : Predicate ρ}
    (compiles : condition.CompilesTo fields p) (found : fields.get? condition.field = some field)
    : condition.operator.suits field.type = true := by
  cases compiles with
  | value found' built =>
      obtain rfl := Option.some.inj (found'.symm.trans found)
      exact built.suits
  | column _ _ _ built => simp [Operator.suits, built.kind]
  | isNull _ asked => simp [Operator.suits, asked, Operator.kind]

namespace Compiler

/-- The check for null compiles for each field that is found. -/
theorem exists_compileOne_isNull (notBlank : Text.isBlankText name = false)
    (found : fields.get? name = some field)
    : ∃ operand p, compileOne fields name .isNull operand = .ok p := by
  have fits : Condition.Fits name .isNull .null :=
    ⟨notBlank, rfl, ⟨nofun, nofun⟩, fun _ => nofun⟩
  exact ⟨.null, .isNull field, compileOne_eq_ok_iff.mpr
    ⟨⟨name, .isNull, .null, Condition.fits_iff.mp fits⟩, rfl, rfl, rfl, .isNull found rfl⟩⟩

/-- An operator that suits the type of a field that is found compiles with some operand, when it
takes a constant or asks for null and is served; by cases on its kind.
-/
theorem exists_compileOne_of_suits (notBlank : Text.isBlankText name = false)
    (found : fields.get? name = some field) (suited : op.suits field.type = true)
    (tests : op.isLogical = false) (alone : op.isColumn = false)
    (served : op ∉ Operator.reserved)
    : ∃ operand p, compileOne fields name op operand = .ok p := by
  have onConstants (constants : op.kind = .comparison ∨ op.kind = .text)
      : ∃ operand p, compileOne fields name op operand = .ok p := by
    obtain ⟨operand, test, built⟩ := ValueTest.exists_built suited constants served
    exact ⟨operand, .value field test,
      (compileOne_value_iff constants).mpr ⟨notBlank, field, test, found, built, rfl⟩⟩
  cases kind : op.kind with
  | comparison => exact onConstants (.inl kind)
  | text => exact onConstants (.inr kind)
  | null =>
      have asked : op.isNullCheck = true := by simp [Operator.isNullCheck, kind]
      obtain rfl := Operator.eq_isNull_of_isNullCheck asked
      exact exists_compileOne_isNull notBlank found
  | column => simp [Operator.isColumn, kind] at alone
  | logical => simp [Operator.isLogical, kind] at tests

end Compiler

/-- Operators that filters can apply to a field are offered for it. -/
theorem Field.Takes.mem_operators {field : Field} (takes : field.Takes op)
    : op ∈ field.operators := by
  obtain ⟨ρ, schema, accessor, name, operand, p, found, rfl, compiled⟩ := takes
  obtain ⟨condition, rfl, rfl, _, compiles⟩ := Compiler.compileOne_eq_ok_iff.mp compiled
  exact Field.mem_operators_iff.mpr (compiles.suits found)

/-- Operators that are offered for a field compile in each schema that has the field. -/
theorem Field.exists_compileOne_of_mem_operators {field : Field}
    (notBlank : Text.isBlankText field.name = false) (offered : op ∈ field.operators)
    (tests : op.isLogical = false) (alone : op.isColumn = false) (served : op ∉ Operator.reserved)
    {schema : Schema ρ} {accessor : Accessor ρ}
    (among : accessor ∈ (FieldIndex.ofSchema schema).fields) (declares : accessor.field = field)
    : ∃ operand p,
        Compiler.compileOne (FieldIndex.ofSchema schema) field.name op operand = .ok p := by
  obtain rfl := declares
  exact Compiler.exists_compileOne_of_suits notBlank
    (FieldIndex.get?_of_mem_fields among (FieldIndex.sameName_refl _))
    (Field.mem_operators_iff.mp offered) tests alone served

/-- Operators that filters can apply to a named field are offered for it. Of the operators that take
a constant or ask for null, except for those that are reserved, the ones that are offered are just
the ones that filters can apply, and they can do so in every schema that has the field.
-/
theorem Field.operators_eq_taken (field : Field) (notBlank : Text.isBlankText field.name = false)
    : (∀ op, op.isLogical = false → field.Takes op → op ∈ field.operators)
      ∧ ∀ op,
          op.isLogical = false →
          op.isColumn = false →
          op ∉ Operator.reserved →
          (op ∈ field.operators ↔ field.Takes op)
          ∧ (op ∈ field.operators →
              ∀ (ρ : Type) (schema : Schema ρ) (accessor : Accessor ρ),
                accessor ∈ (FieldIndex.ofSchema schema).fields →
                accessor.field = field →
                ∃ operand p,
                  Compiler.compileOne (FieldIndex.ofSchema schema) field.name op operand
                  = .ok p) := by
  refine ⟨fun op _ takes => takes.mem_operators, fun op tests alone served => ⟨⟨?_, ?_⟩, ?_⟩⟩
  · intro offered
    -- The schema of this field alone, where all records have null in it.
    let accessor : Accessor Unit := ⟨field, fun _ => .null⟩
    let schema : Schema Unit := ⟨"", [accessor]⟩
    have among : accessor ∈ (FieldIndex.ofSchema schema).fields := List.mem_singleton_self accessor
    obtain ⟨operand, p, compiled⟩ :=
      Field.exists_compileOne_of_mem_operators notBlank offered tests alone served among rfl
    exact ⟨Unit, schema, accessor, field.name, operand, p,
      FieldIndex.get?_of_mem_fields among (FieldIndex.sameName_refl _), rfl, compiled⟩
  · exact fun takes => takes.mem_operators
  · intro offered ρ schema accessor among declares
    exact Field.exists_compileOne_of_mem_operators notBlank offered tests alone served among declares

/-- Lists of lists of a status are looked for and compared, but not ordered. -/
theorem Field.operators_eq_taken_of_nested_lists
    : let status : EnumType := ⟨"Status", [("Active", 1)]⟩
      let field : Field := ⟨"History", .array (.array (.enum status)), true⟩
      Text.isBlankText field.name = false
      ∧ field.Takes .equal
      ∧ field.Takes .within
      ∧ field.Takes .isNull
      ∧ ¬field.Takes .greaterThan
      ∧ ¬field.Takes .like
      ∧ (∀ op, op.isLogical = false → field.Takes op → op ∈ field.operators) := by
  intro status field
  have notBlank : Text.isBlankText field.name = false := by decide
  obtain ⟨offered, taken⟩ := field.operators_eq_taken notBlank
  refine ⟨notBlank, ?_, ?_, ?_, ?_, ?_, offered⟩
  · exact (taken .equal rfl rfl (by decide)).1.mp (mem_operators_iff.mpr rfl)
  · exact (taken .within rfl rfl (by decide)).1.mp (mem_operators_iff.mpr rfl)
  · exact (taken .isNull rfl rfl (by decide)).1.mp (mem_operators_iff.mpr rfl)
  · exact fun takes => Bool.false_ne_true (mem_operators_iff.mp (offered .greaterThan rfl takes))
  · exact fun takes => Bool.false_ne_true (mem_operators_iff.mp (offered .like rfl takes))

end RecordFilter
