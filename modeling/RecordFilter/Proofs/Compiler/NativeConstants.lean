import RecordFilter.Proofs.Coercion.Acceptance
import RecordFilter.Proofs.Matrix.Selection

/-! Conditions with constants of a program beside what their documents are read back as. Where the
latter compile the former do, unless a constant is a member of an enumeration only as it is written.
-/

namespace RecordFilter

/-- No constant of the operand is a member of an enumeration only as it is written. -/
def Operand.NamesMembersFor (operand : Operand) (type : FieldType) : Prop :=
  ∀ scalar ∈ operand.scalars, scalar.isMemberInWriting type = false

namespace Operand.ReadsBack

variable {op : Operator} {operand result : Operand} {type : FieldType}

/-- Lists are read back as lists and nothing else is, by cases on the operand. -/
theorem isCollection_eq (h : ReadsBack op operand result)
    : result.isCollection = operand.isCollection := by
  have ofText {text : String} (stands : ReadsValue op (.string text) result)
      : result.isCollection = false := by
    cases stands <;> rfl
  cases h with
  | column name | null | array written => rfl
  | pattern stands => exact ofText stands
  | @single scalar json _ written stands =>
      cases scalar with
      | json document =>
          cases written
          cases stands <;> rfl
      | float y =>
          cases y <;> cases written
          cases stands
          rfl
      | bool _ | int _ | decimal _ =>
          cases written
          cases stands
          rfl
      | string _ | timestamp _ | uuid _ =>
          cases written
          exact ofText stands

/-- Outside of the operators on text a single operand takes the types that it takes as it is read
back, by cases on the operand.
-/
theorem exists_coerce {value : Value} (h : ReadsBack op operand result) (plain : op.isText = false)
    (named : operand.NamesMembersFor type) (single : result.isCollection = false)
    (taken : result.coerce type = .ok value)
    : ∃ value, operand.coerce type = .ok value := by
  have reread {json : Json} (stands : ReadsValue op json result)
      : (Scalar.json json).coerce type = .ok value := by
    rcases stands.coerce_eq single with same | ⟨text, rfl, rfl⟩
    · rw [← same, taken]
    · cases stands with
      | pattern searches => simp [plain] at searches
  cases h with
  | column name => cases taken
  | null => exact ⟨_, rfl⟩
  | @pattern text _ stands =>
      exact (@Scalar.exists_coerce_iff _ _ (.string text) _ rfl (reread stands)).mpr rfl
  | single written stands =>
      exact (Scalar.exists_coerce_iff written (reread stands)).mpr (named _ List.mem_cons_self)
  | array written => cases single

/-- What stands for a pattern as it is read back stands for one as it is. -/
theorem exists_coerce_string {pattern : String} (h : ReadsBack op operand result)
    (single : result.isCollection = false)
    (taken : result.coerce .string = .ok (.string pattern))
    : ∃ pattern', operand.coerce .string = .ok (.string pattern') := by
  cases h with
  | column name | null => cases taken
  | pattern stands => exact ⟨_, rfl⟩
  | @single scalar json _ written stands =>
      cases scalar with
      | json document =>
          cases written
          rcases stands.coerce_eq single with same | ⟨text, rfl, rfl⟩
          · exact ⟨_, by rw [← taken, same]; rfl⟩
          · exact ⟨_, rfl⟩
      | bool _ | int _ | float _ | decimal _ | string _ | timestamp _ | uuid _ => exact ⟨_, rfl⟩
  | array written => cases single

/-- The items of a list take the type of the elements as they do when they are read back, by
induction on the pairs.
-/
theorem exists_forall₂_coerce {items : List Scalar} {jsons : List Json} {values : List Value}
    (written : List.Forall₂ (fun item json => item.toJson = .ok json) items jsons)
    (taken
      : List.Forall₂ (fun json value => (Scalar.json json).coerce type = .ok value) jsons values)
    (named : ∀ item ∈ items, item.isMemberInWriting type = false)
    : ∃ values, List.Forall₂ (fun item value => item.coerce type = .ok value) items values := by
  induction written generalizing values with
  | nil => exact ⟨[], .nil⟩
  | cons head _ ih =>
      cases taken with
      | cons first rest =>
          rw [List.forall_mem_cons] at named
          obtain ⟨value, here⟩ := (Scalar.exists_coerce_iff head first).mpr named.1
          obtain ⟨values, there⟩ := ih rest named.2
          exact ⟨value :: values, .cons here there⟩

/-- A list of constants takes the type of a list as it does when it is read back. -/
theorem exists_coerce_array {values : List Value} (h : ReadsBack op operand result)
    (named : operand.NamesMembersFor type) (list : result.isCollection = true)
    (taken : result.coerce (.array type) = .ok (.array values))
    : ∃ values', operand.coerce (.array type) = .ok (.array values') := by
  rw [h.isCollection_eq] at list
  cases h with
  | column name | null | pattern read => cases list
  | single written read =>
      -- A list of a document is read back item by item.
      unfold isCollection at list
      split at list
      next same => cases same
      next items same =>
        cases same
        cases written
        cases read
        obtain ⟨values', each, _⟩ := bind_eq_ok_iff.mp taken
        rw [mapM_eq_ok_iff, List.forall₂_map_left_iff] at each
        refine ⟨values', ?_⟩
        rw [coerce, Scalar.coerce, Json.convert, Json.convertItems_eq_mapM]
        exact bind_eq_ok_iff.mpr ⟨values', mapM_eq_ok_iff.mpr each, rfl⟩
      next => cases list
  | @array items jsons written =>
      obtain ⟨_, each, _⟩ := bind_eq_ok_iff.mp taken
      rw [mapM_eq_ok_iff, List.forall₂_map_left_iff] at each
      obtain ⟨values', takes⟩ := exists_forall₂_coerce written each named
      exact ⟨values', bind_eq_ok_iff.mpr ⟨values', mapM_eq_ok_iff.mpr takes, rfl⟩⟩

variable {test : ValueTest}

/-- A test that is built from what an operand is read back as is built from the operand too, by
cases on the test.
-/
theorem exists_built (h : ReadsBack op operand result) (named : operand.NamesMembersFor type)
    (built : ValueTest.Built type result op test)
    : ∃ test', ValueTest.Built type operand op test' := by
  have kept := h.isCollection_eq
  have ofText {pattern : String} (isText : type.isText = true)
      (single : result.isCollection = false) (taken : result.coerce type = .ok (.string pattern))
      : ∃ pattern', operand.coerce type = .ok (.string pattern') := by
    cases type <;> cases isText
    exact h.exists_coerce_string single taken
  cases built with
  | @comparison rule constant known single taken ordered =>
      have plain : rule.valueOperator.isText = false := by
        rw [Operator.isText, (ComparisonRule.kind_operators rule known).1]
        rfl
      obtain ⟨constant', takes⟩ := h.exists_coerce plain named single taken
      exact ⟨_, .comparison known (kept ▸ single) takes ordered⟩
  | within list taken =>
      obtain ⟨items', takes⟩ := h.exists_coerce_array named list taken
      exact ⟨_, .within (kept ▸ list) takes⟩
  | notWithin list taken =>
      obtain ⟨items', takes⟩ := h.exists_coerce_array named list taken
      exact ⟨_, .notWithin (kept ▸ list) takes⟩
  | like single isText taken =>
      obtain ⟨pattern', takes⟩ := ofText isText single taken
      exact ⟨_, .like (kept ▸ single) isText takes⟩
  | likeIgnoringCase single isText taken =>
      obtain ⟨pattern', takes⟩ := ofText isText single taken
      exact ⟨_, .likeIgnoringCase (kept ▸ single) isText takes⟩
  | notLike single isText taken =>
      obtain ⟨pattern', takes⟩ := ofText isText single taken
      exact ⟨_, .notLike (kept ▸ single) isText takes⟩

end Operand.ReadsBack

section Compiled

variable {ρ : Type} {fields : FieldIndex ρ} {c c' : Condition} {p' : Predicate ρ}

/-- A condition names a field to compare with where it does so as it is read back. -/
theorem Condition.operand_of_otherField? {other : String} (h : c.otherField? = some other)
    : c.operand = .column other := by
  unfold otherField? at h
  split at h
  next name named =>
    cases h
    exact named
  next => cases h

/-- What compiles as it is read back compiles as it is, unless a constant of it is a member of an
enumeration only as it is written; by cases on what the former compiles to.
-/
theorem Condition.ReadsBack.exists_compilesTo (h : c.ReadsBack c')
    (named
      : ∀ field, fields.get? c.field = some field → c.operand.NamesMembersFor field.type)
    (compiles : c'.CompilesTo fields p')
    : ∃ p, c.CompilesTo fields p := by
  obtain ⟨sameField, sameOperator⟩ := h.keeps
  cases compiles with
  | isNull found asked => exact ⟨_, .isNull (sameField ▸ found) (sameOperator ▸ asked)⟩
  | @column left right other test found named' foundOther built =>
      rw [sameOperator] at built
      have takes : c.operator.isNullCheck = false := by
        simp [Operator.isNullCheck, built.kind]
      have other' : c'.otherField? = some other := by
        rw [otherField?, named']
      rw [h.otherField?_eq takes] at other'
      exact ⟨_, .column (sameField ▸ found) (operand_of_otherField? other') foundOther built⟩
  | @value field test found built =>
      rw [sameField] at found
      rw [sameOperator] at built
      have operand := h.operand built.isNullCheck_eq_false
      obtain ⟨test', built'⟩ := operand.exists_built (named field found) built
      exact ⟨_, .value found built'⟩

/-- Wherever the written form of a constant takes a type, the constant takes it, except that a
decimal number, an instant or an identifier takes the type of no enumeration. So a condition that
compiles as its document is read back compiles as it is, unless it has such a constant on a field of
an enumeration.
-/
theorem Scalar.coerces_iff_of_written
    : (∀ (scalar : Scalar) (json : Json) (type : FieldType) (result : Value),
        scalar.toJson = .ok json →
        (Scalar.json json).coerce type = .ok result →
        ((∃ value, scalar.coerce type = .ok value) ↔ scalar.isMemberInWriting type = false))
      ∧ ∀ (ρ : Type) (fields : FieldIndex ρ) (c c' : Condition) (p' : Predicate ρ),
          c.ReadsBack c' →
          Compiler.standard.compileCondition fields c' = .ok p' →
          (∀ field, fields.get? c.field = some field → c.operand.NamesMembersFor field.type) →
          ∃ p, Compiler.standard.compileCondition fields c = .ok p := by
  refine ⟨fun scalar json type result written read => exists_coerce_iff written read, ?_⟩
  intro ρ fields c c' p' back compiled named
  obtain ⟨p, compiles⟩ := back.exists_compilesTo named
    ((Compiler.standard_compileCondition_eq_ok_iff rfl).mp compiled)
  exact ⟨p, (Compiler.standard_compileCondition_eq_ok_iff rfl).mpr compiles⟩

/-- The number 1.0 asks for more than an age in a program as it does in its document. -/
theorem Scalar.coerces_iff_of_written_of_age
    : let one : Decimal := ⟨false, 10, 1, by decide, by decide⟩
      let fields : FieldIndex Value := ⟨"Person", [⟨⟨"age", .int32, true⟩, id⟩]⟩
      let native : Condition := ⟨"age", .greaterThan, .single (.decimal one), by decide⟩
      let reread : Condition := ⟨"age", .greaterThan, .single (.json (.number "1.0")), by decide⟩
      (Scalar.decimal one).toJson = .ok (.number "1.0")
      ∧ (Scalar.json (.number "1.0")).coerce .int32 = .ok (.int32 1)
      ∧ (∃ value, (Scalar.decimal one).coerce .int32 = .ok value)
      ∧ native.ReadsBack reread
      ∧ ∃ p, Compiler.standard.compileCondition fields native = .ok p := by
  intro one fields native reread
  have written : (Scalar.decimal one).toJson = .ok (.number "1.0") := by
    dsimp only [one]
    rfl
  have read : (Scalar.json (.number "1.0")).coerce .int32 = .ok (.int32 1) := rfl
  have back : native.ReadsBack reread := by
    refine ⟨by intro op; cases op <;> decide, .number "1.0", written, ?_⟩
    dsimp only [native, reread]
    rfl
  have compiled
      : Compiler.standard.compileCondition fields reread
        = .ok (.value ⟨⟨"age", .int32, true⟩, id⟩ (.compare .greaterThan (.int32 1))) := by
    dsimp only [fields, reread]
    rfl
  refine ⟨written, read, ?coerced, back, ?accepted⟩
  case coerced => exact (Scalar.coerces_iff_of_written.1 _ _ _ _ written read).mpr rfl
  case accepted =>
    refine Scalar.coerces_iff_of_written.2 _ fields native reread _ back compiled ?_
    intro field found scalar listed
    have age : fields.get? native.field = some ⟨⟨"age", .int32, true⟩, id⟩ := by
      dsimp only [fields, native]
      rfl
    cases age.symm.trans found
    cases List.mem_singleton.mp listed
    rfl

/-- A decimal number is no member of an enumeration, though its digits are read as one: a condition
with such a constant compiles once it has been written and read back, and not before.
-/
theorem Scalar.coerce_enum_of_decimal
    : let one : Decimal := ⟨false, 1, 0, by decide, by decide⟩
      let status : EnumType := ⟨"ProductStatus", [("Draft", 0), ("Active", 1)]⟩
      let fields : FieldIndex Value := ⟨"Product", [⟨⟨"Status", .enum status, false⟩, id⟩]⟩
      let native : Condition := ⟨"Status", .equal, .single (.decimal one), by decide⟩
      let reread : Condition := ⟨"Status", .equal, .single (.json (.number "1")), by decide⟩
      (Scalar.decimal one).toJson = .ok (.number "1")
      ∧ (Scalar.json (.number "1")).coerce (.enum status) = .ok (.enum ⟨status, 1⟩)
      ∧ (Scalar.decimal one).coerce (.enum status)
        = .error (.valueConversion (.decimal one) (.enum status))
      ∧ native.ReadsBack reread
      ∧ (∃ p, Compiler.standard.compileCondition fields reread = .ok p)
      ∧ Compiler.standard.compileCondition fields native
        = .error (.valueConversion (.decimal one) (.enum status)) := by
  intro one status fields native reread
  have written : (Scalar.decimal one).toJson = .ok (.number "1") := by
    dsimp only [one]
    rfl
  have back : native.ReadsBack reread := by
    refine ⟨by intro op; cases op <;> decide, .number "1", written, ?_⟩
    dsimp only [native, reread]
    rfl
  have compiled
      : Compiler.standard.compileCondition fields reread
        = .ok (.value ⟨⟨"Status", .enum status, false⟩, id⟩
            (.compare .equal (.enum ⟨status, 1⟩))) := by
    dsimp only [fields, reread, status]
    rfl
  refine ⟨written, rfl, rfl, back, ⟨_, compiled⟩, ?_⟩
  dsimp only [fields, native, one, status]
  rfl

end Compiled

end RecordFilter
