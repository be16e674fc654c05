import RecordFilter.Proofs.Compiler.Single
import RecordFilter.Proofs.Schema.Lookup
import RecordFilter.Proofs.Value.Order

/-! Tests of a field against a list of constants. A list is looked through for the value of the
field by the same equality that the constants are compared with one by one, so that the test of the
list stands for the tests of its constants.
-/

namespace RecordFilter

variable {ρ : Type}

/-- A test of a list stands for tests of its constants: it compiles when each of them does, and its
verdict on a record is made from theirs.
-/
structure StandsForEach (listed : Except Error (Predicate ρ)) (constants : List Scalar)
    (each : Scalar → Except Error (Predicate ρ)) (verdict : List Bool → Bool)
    : Prop where
  compiles : (∃ p, listed = .ok p) ↔ ∀ constant ∈ constants, ∃ q, each constant = .ok q
  accepts
    : ∀ p,
        listed = .ok p →
        ∃ parts,
          List.Forall₂ (fun constant q => each constant = .ok q) constants parts
          ∧ ∀ record, p.accepts record = verdict (parts.map (·.accepts record))

/-- A list of constants takes the type of a list when each of them takes the type of the elements.
-/
theorem Operand.coerce_array_eq_ok_iff {constants : List Scalar} {type : FieldType}
    {items : List Value}
    : (array constants).coerce (.array type) = .ok (.array items)
      ↔ List.Forall₂ (fun constant item => constant.coerce type = .ok item) constants items := by
  rw [← mapM_eq_ok_iff]
  simp only [coerce, bind_eq_ok_iff, pure_eq_ok, Except.ok.injEq, Value.array.injEq,
    exists_eq_right]

/-- A constant is no list unless it is an array of a document. -/
theorem Operand.isCollection_single {constant : Scalar}
    (single : ∀ items, constant ≠ .json (.array items))
    : (Operand.single constant).isCollection = false := by
  unfold isCollection
  split
  next same => cases same
  next items same => exact absurd (Operand.single.inj same) (single items)
  next => rfl

namespace ValueTest

/-- Looking for a value among items compares it with each of them. -/
theorem accepts_among (items : List Value) (value : Value)
    : (among items).accepts value
      = (items.map fun item => (compare .equal item).accepts value).any id := by
  simp only [accepts, Comparison.holds, List.any_map, Function.comp_def, id_eq,
    value.equals_comm]

/-- A value is missing among items when it differs from each of them. -/
theorem accepts_not_among (items : List Value) (value : Value)
    : (not (among items)).accepts value
      = (items.map fun item => (compare .notEqual item).accepts value).all id := by
  rw [accepts, accepts_among, List.not_any_eq_all_not, List.all_map, List.all_map]
  rfl

end ValueTest

namespace Compiler

variable {fields : FieldIndex ρ} {name : String} {field : Accessor ρ} {constants : List Scalar}
  {p : Predicate ρ}

section Found

variable (notBlank : Text.isBlankText name = false) (found : fields.get? name = some field)

include notBlank found

/-- A single constant is compared without regard to an order as soon as it takes the type of the
field.
-/
theorem compileOne_comparison_iff {comparison : Comparison} {operand : Operand}
    (single : operand.isCollection = false) (unordered : comparison.isOrdering = false)
    : compileOne fields name comparison.valueOperator operand = .ok p
      ↔ ∃ constant,
          operand.coerce field.type = .ok constant
          ∧ .value field (.compare comparison constant) = p := by
  have onConstants : comparison.valueOperator.kind = .comparison := by
    cases comparison <;> rfl
  rw [compileOne_value_iff (.inl onConstants)]
  simp [ValueTest.built_comparison_iff, notBlank, found, single, unordered]

/-- A list is looked through when each of its constants takes the type of the field. -/
theorem compileOne_onList_iff (excludes : Bool)
    : compileOne fields name (.onList excludes) (.array constants) = .ok p
      ↔ ∃ items,
          List.Forall₂ (fun constant item => constant.coerce field.type = .ok item) constants items
          ∧ .value field (.onList excludes items) = p := by
  have onConstants : (Operator.onList excludes).kind = .comparison := by
    cases excludes <;> rfl
  rw [compileOne_value_iff (.inl onConstants)]
  simp [ValueTest.built_onList_iff, notBlank, found, Operand.coerce_array_eq_ok_iff,
    Operand.isCollection]

/-- What compiles to a test of the items that the constants become stands for their comparisons when
the test makes its verdict from them.
-/
theorem standsForEach_of_items {listed : Except Error (Predicate ρ)} (comparison : Comparison)
    {test : List Value → ValueTest} (verdict : List Bool → Bool)
    (single : ∀ constant ∈ constants, ∀ items, constant ≠ .json (.array items))
    (unordered : comparison.isOrdering = false)
    (compiles
      : ∀ p,
          listed = .ok p
          ↔ ∃ items,
              List.Forall₂ (fun constant item => constant.coerce field.type = .ok item) constants
                items
              ∧ .value field (test items) = p)
    (decides
      : ∀ items value,
          (test items).accepts value
          = verdict (items.map fun item => (ValueTest.compare comparison item).accepts value))
    : StandsForEach listed constants
        (fun constant => compileOne fields name comparison.valueOperator (.single constant))
        verdict := by
  have compared (constant : Scalar) (among : constant ∈ constants) (q : Predicate ρ)
      : compileOne fields name comparison.valueOperator (.single constant) = .ok q
        ↔ ∃ item,
            constant.coerce field.type = .ok item
            ∧ .value field (.compare comparison item) = q :=
    compileOne_comparison_iff notBlank found
      (Operand.isCollection_single (single constant among)) unordered
  constructor
  case compiles =>
    calc
      (∃ p, listed = .ok p)
        ↔ ∃ items,
            List.Forall₂ (fun constant item => constant.coerce field.type = .ok item) constants
              items := by simp [compiles]
      _ ↔ ∀ constant ∈ constants, ∃ item, constant.coerce field.type = .ok item :=
        exists_forall₂_iff
      _ ↔ _ := by
        refine forall₂_congr fun constant among => ?_
        simp [compared constant among]
  case accepts =>
    intro p listedOk
    obtain ⟨items, taken, rfl⟩ := (compiles p).mp listedOk
    refine ⟨items.map fun item => .value field (.compare comparison item), ?_, fun record => ?_⟩
    · rw [List.forall₂_map_right_iff]
      exact forall₂_imp_of_mem taken fun constant among item h =>
        (compared constant among _).mpr ⟨item, h, rfl⟩
    · rw [List.map_map]
      exact decides items (field.read record)

end Found

/-- Looking for the value of a declared field in a list is comparing it with each constant of the
list: both compile together, the value is found when some constant equals it, and missing when all
differ from it. Being found and being missing are opposites, and in the empty list nothing is found.
-/
theorem membership_folds_equality {schema : Schema ρ} {name : String} {constants : List Scalar}
    (notBlank : Text.isBlankText name = false)
    (declared : ∃ accessor ∈ schema.fields, FieldIndex.sameName accessor.name name = true)
    (single : ∀ constant ∈ constants, ∀ items, constant ≠ .json (.array items))
    : let compile := compileOne (FieldIndex.ofSchema schema) name
      StandsForEach (compile .within (.array constants)) constants
        (fun constant => compile .equal (.single constant)) (·.any id)
      ∧ StandsForEach (compile .notWithin (.array constants)) constants
          (fun constant => compile .notEqual (.single constant)) (·.all id)
      ∧ ((∃ p, compile .within (.array constants) = .ok p)
          ↔ ∃ q, compile .notWithin (.array constants) = .ok q)
      ∧ (∀ p q,
          compile .within (.array constants) = .ok p →
          compile .notWithin (.array constants) = .ok q →
          ∀ record, q.accepts record = !p.accepts record)
      ∧ ∃ p q,
          compile .within (.array []) = .ok p
          ∧ compile .notWithin (.array []) = .ok q
          ∧ ∀ record, p.accepts record = false ∧ q.accepts record = true := by
  intro compile
  obtain ⟨accessor, among, same⟩ := declared
  obtain ⟨field, found⟩ := FieldIndex.exists_get?_of_mem among same
  have within (constants : List Scalar) (p : Predicate ρ)
      : compile .within (.array constants) = .ok p
        ↔ ∃ items,
            List.Forall₂ (fun constant item => constant.coerce field.type = .ok item) constants
              items
            ∧ .value field (.among items) = p :=
    compileOne_onList_iff notBlank found false
  have notWithin (constants : List Scalar) (p : Predicate ρ)
      : compile .notWithin (.array constants) = .ok p
        ↔ ∃ items,
            List.Forall₂ (fun constant item => constant.coerce field.type = .ok item) constants
              items
            ∧ .value field (.not (.among items)) = p :=
    compileOne_onList_iff notBlank found true
  refine ⟨?somewhere, ?nowhere, ?together, ?opposite, ?empty⟩
  case somewhere =>
    exact standsForEach_of_items notBlank found .equal (·.any id) single rfl (within constants)
      ValueTest.accepts_among
  case nowhere =>
    exact standsForEach_of_items notBlank found .notEqual (·.all id) single rfl
      (notWithin constants) ValueTest.accepts_not_among
  case together => simp [within, notWithin]
  case opposite =>
    intro p q isWithin isNotWithin record
    obtain ⟨items, taken, rfl⟩ := (within constants p).mp isWithin
    obtain ⟨others, again, rfl⟩ := (notWithin constants q).mp isNotWithin
    -- Both filters look through the same items, as constants have one value of a type.
    have same : items = others := by
      rw [← mapM_eq_ok_iff] at taken again
      exact Except.ok.inj (taken.symm.trans again)
    rw [same]
    rfl
  case empty =>
    refine ⟨.value field (.among []), .value field (.not (.among [])), ?_, ?_, fun record => ?_⟩
    · exact (within [] _).mpr ⟨[], .nil, rfl⟩
    · exact (notWithin [] _).mpr ⟨[], .nil, rfl⟩
    · exact ⟨rfl, rfl⟩

/-- A number, null and a number in writing, looked for in an age. -/
theorem membership_folds_equality_of_ages
    : let schema : Schema Value := ⟨"Person", [⟨⟨"Age", .int32, true⟩, id⟩]⟩
      let constants : List Scalar := [.int 7, .json .null, .string " 12 "]
      let compile := compileOne (FieldIndex.ofSchema schema) "AGE"
      Text.isBlankText "AGE" = false
      ∧ (∃ accessor ∈ schema.fields, FieldIndex.sameName accessor.name "AGE" = true)
      ∧ (∀ constant ∈ constants, ∀ items, constant ≠ .json (.array items))
      ∧ StandsForEach (compile .within (.array constants)) constants
          (fun constant => compile .equal (.single constant)) (·.any id)
      ∧ StandsForEach (compile .notWithin (.array constants)) constants
          (fun constant => compile .notEqual (.single constant)) (·.all id)
      ∧ ∃ p q,
          compile .within (.array constants) = .ok p
          ∧ compile .notWithin (.array constants) = .ok q
          ∧ (∀ record, q.accepts record = !p.accepts record)
          ∧ [.int32 12, .null, .int32 8].map p.accepts = [true, true, false] := by
  intro schema constants compile
  have notBlank : Text.isBlankText "AGE" = false := by decide
  have declared : ∃ accessor ∈ schema.fields, FieldIndex.sameName accessor.name "AGE" = true :=
    ⟨_, List.mem_singleton_self _, by decide +kernel⟩
  have single : ∀ constant ∈ constants, ∀ items, constant ≠ .json (.array items) := by
    simp [constants]
  obtain ⟨somewhere, nowhere, together, opposite, _⟩ :=
    membership_folds_equality notBlank declared single
  have compiled
      : compile .within (.array constants)
        = .ok (.value ⟨⟨"Age", .int32, true⟩, id⟩ (.among [.int32 7, .null, .int32 12])) := by
    dsimp only [compile, schema, constants]
    rfl
  obtain ⟨q, compiled'⟩ := together.mp ⟨_, compiled⟩
  refine ⟨notBlank, declared, single, somewhere, nowhere, _, q, compiled, compiled', ?_, ?_⟩
  · exact opposite _ q compiled compiled'
  · rfl

end Compiler

end RecordFilter
