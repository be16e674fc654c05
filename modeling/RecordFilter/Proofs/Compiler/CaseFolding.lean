import RecordFilter.Proofs.Compiler.Meaning
import RecordFilter.Proofs.Text.Lowercase

/-! Searches that ignore case beside those that do not. Both texts are lowercased as a whole, so that
the first accept all that the others accept exactly for the patterns whose sigmas are settled within
the pattern.
-/

namespace RecordFilter

open RecordFilter.Text

/-- A condition that looks for the pattern in a field of text compiles with and without regard to
case, and wherever the pattern is found it is found without regard to case too.
-/
def ValueSearchWidens (pattern : String) : Prop :=
  ∀ (ρ : Type) (fields : FieldIndex ρ) (name : String) (field : Accessor ρ)
    (like ilike : Condition),
    fields.get? name = some field →
    field.type = .string →
    Condition.make name .like (.pattern pattern) = .ok like →
    Condition.make name .likeIgnoringCase (.pattern pattern) = .ok ilike →
    ∃ p q,
      Compiler.standard.compileCondition fields like = .ok p
      ∧ Compiler.standard.compileCondition fields ilike = .ok q
      ∧ ∀ record, p.accepts record = true → q.accepts record = true

/-- The same of conditions that look for the text of another field, where that is the pattern. -/
def ColumnSearchWidens (pattern : String) : Prop :=
  ∀ (ρ : Type) (fields : FieldIndex ρ) (name other : String) (left right : Accessor ρ)
    (like ilike : Condition),
    fields.get? name = some left →
    left.type = .string →
    fields.get? other = some right →
    right.type = .string →
    Condition.column name .columnLike other = .ok like →
    Condition.column name .columnLikeIgnoringCase other = .ok ilike →
    ∃ p q,
      Compiler.standard.compileCondition fields like = .ok p
      ∧ Compiler.standard.compileCondition fields ilike = .ok q
      ∧ ∀ record,
          (right.read record).string? = some pattern →
          p.accepts record = true →
          q.accepts record = true

theorem Value.holdsText_string_iff {ignoresCase : Bool} {text pattern : String}
    : (string text).holdsText ignoresCase (string pattern) = true
      ↔ if ignoresCase then
          (lowercase pattern).toList <:+: (lowercase text).toList
        else
          pattern.toList <:+: text.toList := by
  cases ignoresCase <;> simp [holdsText, string?]

/-- A value that holds a text with settled sigmas holds it without regard to case. -/
theorem Value.holdsText_ignoring_case {whole part : Value} {pattern : String}
    (named : part.string? = some pattern) (settled : HasSettledSigmas pattern)
    (holds : whole.holdsText false part = true)
    : whole.holdsText true part = true := by
  cases part <;> cases named
  cases whole with
  | string text =>
      rw [holdsText_string_iff] at holds ⊢
      exact lowercase_infix_of_settled settled holds
  | _ => cases holds

section Compiled

variable {ρ : Type} {fields : FieldIndex ρ}

/-- The predicate of a search for a pattern in a field of text. -/
theorem Condition.compileCondition_search {name pattern : String} {field : Accessor ρ}
    {like ilike : Condition} (found : fields.get? name = some field)
    (isString : field.type = .string)
    (made : make name .like (.pattern pattern) = .ok like)
    (made' : make name .likeIgnoringCase (.pattern pattern) = .ok ilike)
    : Compiler.standard.compileCondition fields like
        = .ok (.value field (.contains pattern false))
      ∧ Compiler.standard.compileCondition fields ilike
        = .ok (.value field (.contains (lowercase pattern) true)) := by
  have isText : field.type.isText = true := by
    rw [isString]
    rfl
  have taken : (Operand.pattern pattern).coerce field.type = .ok (.string pattern) := by
    rw [isString]
    rfl
  rw [Compiler.standard_compileCondition_eq_ok_iff rfl,
    Compiler.standard_compileCondition_eq_ok_iff rfl]
  obtain ⟨rfl, sameOperator, sameOperand⟩ := make_eq_ok_iff.mp made
  obtain ⟨sameField', sameOperator', sameOperand'⟩ := make_eq_ok_iff.mp made'
  refine ⟨.value found ?_, .value (sameField' ▸ found) ?_⟩
  · rw [sameOperator, sameOperand]
    exact .like rfl isText taken
  · rw [sameOperator', sameOperand']
    exact .likeIgnoringCase rfl isText taken

/-- The predicate of a search for the text of one field in that of another. -/
theorem Condition.compileCondition_columnSearch {name other : String} {left right : Accessor ρ}
    {like ilike : Condition} (found : fields.get? name = some left)
    (isString : left.type = .string) (foundOther : fields.get? other = some right)
    (isString' : right.type = .string)
    (made : column name .columnLike other = .ok like)
    (made' : column name .columnLikeIgnoringCase other = .ok ilike)
    : Compiler.standard.compileCondition fields like = .ok (.column left right (.contains false))
      ∧ Compiler.standard.compileCondition fields ilike
        = .ok (.column left right (.contains true)) := by
  have isText : left.type.isText = true := by
    rw [isString]
    rfl
  have isText' : right.type.isText = true := by
    rw [isString']
    rfl
  rw [Compiler.standard_compileCondition_eq_ok_iff rfl,
    Compiler.standard_compileCondition_eq_ok_iff rfl]
  obtain ⟨rfl, sameOperator, named⟩ := make_eq_ok_iff.mp ((column_eq_make ..).mp made)
  obtain ⟨sameField', sameOperator', named'⟩ := make_eq_ok_iff.mp ((column_eq_make ..).mp made')
  refine ⟨.column found named foundOther ?_, .column (sameField' ▸ found) named' foundOther ?_⟩
  · rw [sameOperator]
    exact .like isText isText'
  · rw [sameOperator']
    exact .likeIgnoringCase isText isText'

end Compiled

theorem valueSearchWidens_of_settled {pattern : String} (settled : HasSettledSigmas pattern)
    : ValueSearchWidens pattern := by
  intro ρ fields name field like ilike found isString made made'
  obtain ⟨compiled, compiled'⟩ :=
    Condition.compileCondition_search found isString made made'
  refine ⟨_, _, compiled, compiled', fun record holds => ?_⟩
  rw [Predicate.accepts, ValueTest.accepts_contains] at holds
  rw [Predicate.accepts, ValueTest.accepts_contains_lowercase]
  exact Value.holdsText_ignoring_case rfl settled holds

theorem columnSearchWidens_of_settled {pattern : String} (settled : HasSettledSigmas pattern)
    : ColumnSearchWidens pattern := by
  intro ρ fields name other left right like ilike found isString foundOther isString' made made'
  obtain ⟨compiled, compiled'⟩ :=
    Condition.compileCondition_columnSearch found isString foundOther isString' made made'
  refine ⟨_, _, compiled, compiled', fun record named holds => ?_⟩
  rw [Predicate.accepts, ColumnTest.accepts_contains] at holds ⊢
  exact Value.holdsText_ignoring_case named settled holds

/-- Texts alone, as records with one field. -/
def FieldIndex.ofText : FieldIndex String :=
  ⟨"Note", [⟨⟨"text", .string, false⟩, .string⟩]⟩

/-- Pairs of texts, as records with two fields. -/
def FieldIndex.ofTexts : FieldIndex (String × String) :=
  ⟨"Note", [⟨⟨"text", .string, false⟩, fun note => .string note.1⟩,
    ⟨⟨"part", .string, false⟩, fun note => .string note.2⟩]⟩

theorem settled_of_valueSearchWidens {pattern : String} (widens : ValueSearchWidens pattern)
    : HasSettledSigmas pattern := by
  refine lowercase_infix_iff_settled.mp fun text holds => ?_
  have made : Condition.make "text" .like (.pattern pattern) = .ok ⟨_, _, _, rfl⟩ :=
    Condition.make_eq_ok_iff.mpr ⟨rfl, rfl, rfl⟩
  have made' : Condition.make "text" .likeIgnoringCase (.pattern pattern) = .ok ⟨_, _, _, rfl⟩ :=
    Condition.make_eq_ok_iff.mpr ⟨rfl, rfl, rfl⟩
  obtain ⟨p, q, compiled, compiled', wider⟩ :=
    widens String .ofText "text" _ _ _ rfl rfl made made'
  obtain ⟨like, ilike⟩ :=
    @Condition.compileCondition_search String .ofText "text" _ _ _ _ rfl rfl made made'
  cases compiled.symm.trans like
  cases compiled'.symm.trans ilike
  have accepted
      : (Value.string text).holdsText false (.string pattern) = true →
        (Value.string text).holdsText true (.string pattern) = true := by
    have := wider text
    rwa [Predicate.accepts, Predicate.accepts, ValueTest.accepts_contains,
      ValueTest.accepts_contains_lowercase] at this
  exact Value.holdsText_string_iff.mp (accepted (Value.holdsText_string_iff.mpr holds))

theorem settled_of_columnSearchWidens {pattern : String} (widens : ColumnSearchWidens pattern)
    : HasSettledSigmas pattern := by
  refine lowercase_infix_iff_settled.mp fun text holds => ?_
  have made : Condition.column "text" .columnLike "part" = .ok ⟨_, _, _, rfl⟩ :=
    (Condition.column_eq_make ..).mpr (Condition.make_eq_ok_iff.mpr ⟨rfl, rfl, rfl⟩)
  have made' : Condition.column "text" .columnLikeIgnoringCase "part" = .ok ⟨_, _, _, rfl⟩ :=
    (Condition.column_eq_make ..).mpr (Condition.make_eq_ok_iff.mpr ⟨rfl, rfl, rfl⟩)
  obtain ⟨p, q, compiled, compiled', wider⟩ :=
    widens (String × String) .ofTexts "text" "part" _ _ _ _ rfl rfl rfl rfl made made'
  obtain ⟨like, ilike⟩ :=
    @Condition.compileCondition_columnSearch (String × String) .ofTexts "text" "part" _ _ _ _
      rfl rfl rfl rfl made made'
  cases compiled.symm.trans like
  cases compiled'.symm.trans ilike
  have accepted
      : (Value.string text).holdsText false (.string pattern) = true →
        (Value.string text).holdsText true (.string pattern) = true := by
    have := wider (text, pattern) rfl
    rwa [Predicate.accepts, Predicate.accepts, ColumnTest.accepts_contains,
      ColumnTest.accepts_contains] at this
  exact Value.holdsText_string_iff.mp (accepted (Value.holdsText_string_iff.mpr holds))

/-- Searches without regard to case accept all that the others accept exactly for the patterns whose
sigmas are settled within the pattern, be the pattern a constant or the text of a field.
-/
theorem searches_widen_iff_settled (pattern : String)
    : (ValueSearchWidens pattern ↔ HasSettledSigmas pattern)
      ∧ (ColumnSearchWidens pattern ↔ HasSettledSigmas pattern) :=
  ⟨⟨settled_of_valueSearchWidens, valueSearchWidens_of_settled⟩,
    settled_of_columnSearchWidens, columnSearchWidens_of_settled⟩

/-- A sigma that ends the pattern and stands within the text has two lowercase forms, so that the
pattern is found with regard to case only.
-/
theorem search_narrows_of_inner_sigma
    : let like : Condition := ⟨"text", .like, .pattern "\u0391\u03a3", rfl⟩
      let ilike : Condition := ⟨"text", .likeIgnoringCase, .pattern "\u0391\u03a3", rfl⟩
      let columnLike : Condition := ⟨"text", .columnLike, .column "part", rfl⟩
      let columnIlike : Condition := ⟨"text", .columnLikeIgnoringCase, .column "part", rfl⟩
      ∃ p q p' q',
        Compiler.standard.compileCondition .ofText like = .ok p
        ∧ Compiler.standard.compileCondition .ofText ilike = .ok q
        ∧ p.accepts "\u0391\u03a3\u0391" = true
        ∧ q.accepts "\u0391\u03a3\u0391" = false
        ∧ Compiler.standard.compileCondition .ofTexts columnLike = .ok p'
        ∧ Compiler.standard.compileCondition .ofTexts columnIlike = .ok q'
        ∧ p'.accepts ("\u0391\u03a3\u0391", "\u0391\u03a3") = true
        ∧ q'.accepts ("\u0391\u03a3\u0391", "\u0391\u03a3") = false :=
  ⟨_, _, _, _, rfl, rfl, by decide +kernel, by decide +kernel, rfl, rfl, by decide +kernel,
    by decide +kernel⟩

end RecordFilter
