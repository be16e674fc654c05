import RecordFilter.Proofs.Compiler.Meaning
import RecordFilter.Proofs.Compiler.Single
import RecordFilter.Proofs.Compiler.Typing
import RecordFilter.Proofs.Value.Order

/-! Tests of two fields. What a record has in the second field takes the place of a constant, so that
each operator on two fields goes with one on a field and a constant. Comparisons of two fields can
be turned around.
-/

namespace RecordFilter

variable {ρ : Type}

/-- The operator that asks of a constant what an operator on two fields asks of the second one. -/
def Operator.valueCounterpart? : Operator → Option Operator
  | .columnEqual => some .equal
  | .columnNotEqual => some .notEqual
  | .columnGreaterThan => some .greaterThan
  | .columnLessThan => some .lessThan
  | .columnGreaterThanOrEqual => some .greaterThanOrEqual
  | .columnLessThanOrEqual => some .lessThanOrEqual
  | .columnLike => some .like
  | .columnLikeIgnoringCase => some .likeIgnoringCase
  | _ => none

theorem Comparison.valueCounterpart?_columnOperator (comparison : Comparison)
    : comparison.columnOperator.valueCounterpart? = some comparison.valueOperator := by
  cases comparison <;> rfl

namespace ValueStrategy

/-- What a strategy builds for a constant gives the verdict on a value. It builds nothing only when
a pattern is asked for and the constant is no text, and the verdict is a rejection then.
-/
structure AgreesWith (strategy : ValueStrategy) (op : Operator) (field : Field)
    (value constant : Value) (verdict : Bool)
    : Prop where
  built : ∀ test, strategy.build op field constant = .ok test → test.accepts value = verdict
  unbuilt : ∀ e, strategy.build op field constant = .error e → verdict = false
  unbuilt_iff
    : (∃ e, strategy.build op field constant = .error e)
      ↔ op.isText = true ∧ constant.string? = none

variable {op : Operator} {field : Field}

/-- What is built at once gives the verdict of the one test. -/
theorem agreesWith_of_build {strategy : ValueStrategy} {constant : Value} {test : ValueTest}
    (builds : strategy.build op field constant = .ok test)
    (noPattern : op.isText = true → constant.string? ≠ none) (value : Value)
    : strategy.AgreesWith op field value constant (test.accepts value) := by
  constructor
  case built =>
    intro other builds'
    rw [Except.ok.inj (builds.symm.trans builds')]
  case unbuilt =>
    intro e failed
    cases builds.symm.trans failed
  case unbuilt_iff =>
    refine ⟨fun ⟨e, failed⟩ => ?_, fun ⟨isText, noText⟩ => ?_⟩
    · cases builds.symm.trans failed
    · exact absurd noText (noPattern isText)

/-- A comparison is built for every constant where the field has the order that is asked for. -/
theorem agreesWith_comparison {comparison : Comparison}
    (ordered : comparison.isOrdering = true → field.type.isOrdered = true) (value constant : Value)
    : (ValueStrategy.comparison comparison.rule).AgreesWith comparison.valueOperator field value
        constant (comparison.holds value constant) := by
  have builds
      : (ValueStrategy.comparison comparison.rule).build comparison.valueOperator field constant
        = .ok (.compare comparison constant) :=
    build_comparison_eq_ok_iff.mpr ⟨rfl, ordered, rfl⟩
  refine agreesWith_of_build builds (fun isText => ?_) value
  cases comparison <;> cases isText

/-- A pattern is built for the constants that are texts, by cases on the constant. -/
theorem agreesWith_pattern {ignoresCase : Bool} (isText : field.type.isText = true)
    (asksText : op.isText = true)
    (searches
      : ∀ text,
          ∃ test,
            patternTest op text = .ok test
            ∧ ∀ value, test.accepts value = value.holdsText ignoresCase (.string text))
    (value constant : Value)
    : pattern.AgreesWith op field value constant (value.holdsText ignoresCase constant) := by
  cases text : constant.string? with
  | some pattern =>
      obtain ⟨rfl⟩ : constant = .string pattern := by
        cases constant <;> cases text
        rfl
      obtain ⟨test, made, accepts⟩ := searches pattern
      rw [← accepts value]
      have builds : ValueStrategy.pattern.build op field (.string pattern) = .ok test :=
        build_pattern_eq_ok_iff.mpr ⟨isText, pattern, rfl, made⟩
      exact agreesWith_of_build builds (fun _ => nofun) value
  | none =>
      have unbuilt : ∀ test, pattern.build op field constant ≠ .ok test := by
        intro test builds
        obtain ⟨_, pattern, rfl, _⟩ := build_pattern_eq_ok_iff.mp builds
        cases text
      constructor
      case built => exact fun test builds => absurd builds (unbuilt test)
      case unbuilt =>
        intro _ _
        simp [Value.holdsText, text]
      case unbuilt_iff =>
        refine iff_of_true ?_ ⟨asksText, text⟩
        cases outcome : pattern.build op field constant with
        | ok test => exact absurd outcome (unbuilt test)
        | error e => exact ⟨e, rfl⟩

end ValueStrategy

/-- A test of two fields goes with the standard strategy of the counterpart, by cases on the test.
-/
theorem ColumnTest.Built.exists_strategy {left right : FieldType} {op counterpart : Operator}
    {test : ColumnTest} (built : Built left right op test)
    (pair : op.valueCounterpart? = some counterpart)
    : ∃ strategy,
        StrategyRegistry.standard.valueFor counterpart = .ok strategy
        ∧ ∀ field : Field,
            field.type = left →
            ∀ value constant,
              strategy.AgreesWith counterpart field value constant
                (test.accepts value constant) := by
  cases built with
  | @comparison rule known same ordered =>
      obtain ⟨comparison, rfl⟩ := ComparisonRule.mem_all_iff.mp known
      obtain rfl : comparison.valueOperator = counterpart :=
        Option.some.inj (comparison.valueCounterpart?_columnOperator.symm.trans pair)
      refine ⟨.comparison comparison.rule, ?_, fun field typed => ?_⟩
      · exact StrategyRegistry.standard_valueFor_eq_ok_iff.mpr (.inl ⟨_, known, rfl, rfl⟩)
      · exact ValueStrategy.agreesWith_comparison (typed ▸ ordered)
  | like leftText rightText =>
      cases pair
      refine ⟨.pattern, rfl, fun field typed value constant => ?_⟩
      rw [accepts_contains]
      exact ValueStrategy.agreesWith_pattern (typed ▸ leftText) rfl
        (fun text => ⟨_, rfl, ValueTest.accepts_contains text⟩) value constant
  | likeIgnoringCase leftText rightText =>
      cases pair
      -- A constant is lowercased when the test is built, the other field when the test is made.
      refine ⟨.pattern, rfl, fun field typed value constant => ?_⟩
      rw [accepts_contains]
      exact ValueStrategy.agreesWith_pattern (typed ▸ leftText) rfl
        (fun text => ⟨_, rfl, ValueTest.accepts_contains_lowercase text⟩) value constant

theorem FieldType.same_comm (left right : FieldType) : left.same right = right.same left := by
  induction left generalizing right with
  | enum type =>
      cases right with
      | enum other => exact type.same_comm other
      | _ => rfl
  | array element ih =>
      cases right with
      | array other => exact ih other
      | _ => rfl
  | _ => cases right <;> rfl

/-- Two filters compile together and accept the same records. -/
structure AcceptsAlike (left right : Except Error (Predicate ρ)) : Prop where
  compiles : (∃ p, left = .ok p) ↔ ∃ q, right = .ok q
  accepts
    : ∀ p q, left = .ok p → right = .ok q → ∀ record, p.accepts record = q.accepts record

namespace Compiler

variable {fields : FieldIndex ρ} {name other : String} {p q : Predicate ρ}

/-- On each record an operator on two fields accepts what its counterpart accepts when the value of
the second field is its constant. What is no text rejects the record as a pattern.
-/
theorem column_agrees_with_counterpart {op counterpart : Operator}
    (pair : op.valueCounterpart? = some counterpart)
    (compiled : compileOne fields name op (.column other) = .ok p)
    : ∃ left right strategy,
        fields.get? name = some left
        ∧ fields.get? other = some right
        ∧ StrategyRegistry.standard.valueFor counterpart = .ok strategy
        ∧ ∀ record,
            strategy.AgreesWith counterpart left.field (left.read record) (right.read record)
              (p.accepts record) := by
  obtain ⟨_, _, left, right, test, found, foundOther, built, rfl⟩ :=
    compileOne_column_iff.mp compiled
  obtain ⟨strategy, served, agrees⟩ := built.exists_strategy pair
  exact ⟨left, right, strategy, found, foundOther, served,
    fun record => agrees left.field rfl (left.read record) (right.read record)⟩

/-- Titles that hold a part in other letters, and records that lack one of the two texts. -/
theorem column_agrees_with_counterpart_of_titles
    : let title : Accessor (Value × Value) := ⟨⟨"Title", .string, true⟩, Prod.fst⟩
      let part : Accessor (Value × Value) := ⟨⟨"Part", .string, true⟩, Prod.snd⟩
      let fields : FieldIndex (Value × Value) := ⟨"Book", [title, part]⟩
      let p := Predicate.column title part (.contains true)
      Operator.columnLikeIgnoringCase.valueCounterpart? = some .likeIgnoringCase
      ∧ compileOne fields "title" .columnLikeIgnoringCase (.column "PART") = .ok p
      ∧ (∃ left right strategy,
          fields.get? "title" = some left
          ∧ fields.get? "PART" = some right
          ∧ StrategyRegistry.standard.valueFor .likeIgnoringCase = .ok strategy
          ∧ ∀ record,
              strategy.AgreesWith .likeIgnoringCase left.field (left.read record)
                (right.read record) (p.accepts record))
      ∧ p.accepts (.string "ÄRGER", .string "ärg") = true
      ∧ p.accepts (.string "ÄRGER", .null) = false
      ∧ p.accepts (.int32 7, .string "7") = false := by
  intro title part fields p
  have compiled : compileOne fields "title" .columnLikeIgnoringCase (.column "PART") = .ok p := by
    dsimp only [fields, title, part, p]
    rfl
  have agrees := column_agrees_with_counterpart rfl compiled
  exact ⟨rfl, compiled, agrees, by decide +kernel, rfl, rfl⟩

/-- Comparisons of two fields compile where both are found and have the same type, with an order
where one is asked for.
-/
theorem compileOne_columnComparison_iff {comparison : Comparison}
    : compileOne fields name comparison.columnOperator (.column other) = .ok p
      ↔ Text.isBlankText name = false
        ∧ Text.isBlankText other = false
        ∧ ∃ left right,
            fields.get? name = some left
            ∧ fields.get? other = some right
            ∧ left.type.same right.type = true
            ∧ (comparison.isOrdering = true → left.type.isOrdered = true)
            ∧ .column left right (.compare comparison) = p := by
  simp [compileOne_column_iff, ColumnTest.built_comparison_iff, and_assoc]

/-- A comparison of two fields that compiles can be turned around. -/
theorem exists_compileOne_converse {comparison : Comparison}
    (compiled : compileOne fields name comparison.columnOperator (.column other) = .ok p)
    : ∃ q,
        compileOne fields other comparison.converse.columnOperator (.column name) = .ok q
        ∧ ∀ record, p.accepts record = q.accepts record := by
  obtain ⟨named, namedOther, left, right, found, foundOther, same, ordered, rfl⟩ :=
    compileOne_columnComparison_iff.mp compiled
  refine ⟨.column right left (.compare comparison.converse), ?_, fun record => ?_⟩
  · have ordered' (orders : comparison.converse.isOrdering = true)
        : right.type.isOrdered = true := by
      rw [← FieldType.isOrdered_eq_of_same same]
      exact ordered (comparison.isOrdering_converse.symm.trans orders)
    exact compileOne_columnComparison_iff.mpr
      ⟨namedOther, named, right, left, foundOther, found,
        (right.type.same_comm left.type).trans same, ordered', rfl⟩
  · exact (comparison.holds_converse _ _).symm

/-- The converse of a comparison compiles with it and accepts the same records. -/
theorem acceptsAlike_converse (fields : FieldIndex ρ) (name other : String)
    (comparison : Comparison)
    : AcceptsAlike (compileOne fields name comparison.columnOperator (.column other))
        (compileOne fields other comparison.converse.columnOperator (.column name)) := by
  constructor
  case compiles =>
    refine ⟨fun ⟨p, compiled⟩ => ?_, fun ⟨q, compiled⟩ => ?_⟩
    · obtain ⟨q, turned, _⟩ := exists_compileOne_converse compiled
      exact ⟨q, turned⟩
    · obtain ⟨p, turned, _⟩ := exists_compileOne_converse compiled
      rw [comparison.converse_converse] at turned
      exact ⟨p, turned⟩
  case accepts =>
    intro p q compiled turned record
    obtain ⟨q', turned', same⟩ := exists_compileOne_converse compiled
    rw [Except.ok.inj (turned.symm.trans turned')]
    exact same record

/-- Comparisons of two fields obey the laws of an order, whatever the record has in these fields.
Each can be turned around, one field is not greater than the other and less at once, and what is
greater or equal is either greater or equal in the order.
-/
theorem columnComparisons_obey_order (fields : FieldIndex ρ) (name other : String)
    : let compare (comparison : Comparison) (name other : String) :=
        compileOne fields name comparison.columnOperator (.column other)
      (∀ comparison,
        AcceptsAlike (compare comparison name other) (compare comparison.converse other name))
      ∧ (∀ p q,
          compare .greaterThan name other = .ok p →
          compare .greaterThan other name = .ok q →
          ∀ record, ¬(p.accepts record = true ∧ q.accepts record = true))
      ∧ ∀ p,
          compare .greaterThanOrEqual name other = .ok p →
          ∃ left right q,
            fields.get? name = some left
            ∧ fields.get? other = some right
            ∧ compare .greaterThan name other = .ok q
            ∧ ∀ record,
                p.accepts record = true
                ↔ q.accepts record = true
                  ∨ (left.read record).compare? (right.read record) = some .eq := by
  intro compare
  refine ⟨acceptsAlike_converse fields name other, ?asymmetric, ?weak⟩
  case asymmetric =>
    intro p q forth back record ⟨accepted, accepted'⟩
    obtain ⟨_, _, left, right, found, foundOther, _, _, rfl⟩ :=
      compileOne_columnComparison_iff.mp forth
    obtain ⟨_, _, right', left', foundOther', found', _, _, rfl⟩ :=
      compileOne_columnComparison_iff.mp back
    obtain rfl := Option.some.inj (found.symm.trans found')
    obtain rfl := Option.some.inj (foundOther.symm.trans foundOther')
    exact Bool.false_ne_true ((Comparison.greaterThan_asymm accepted).symm.trans accepted')
  case weak =>
    intro p compiled
    obtain ⟨named, namedOther, left, right, found, foundOther, same, ordered, rfl⟩ :=
      compileOne_columnComparison_iff.mp compiled
    refine ⟨left, right, .column left right (.compare .greaterThan), found, foundOther, ?_, ?_⟩
    · exact compileOne_columnComparison_iff.mpr
        ⟨named, namedOther, left, right, found, foundOther, same, ordered, rfl⟩
    · exact fun record => Comparison.greaterThanOrEqual_iff

/-- Zeros of both signs are greater or equal to each other; what is no number, null and what is of
another kind are not.
-/
theorem columnComparisons_obey_order_of_floats
    : let low : Accessor (Value × Value) := ⟨⟨"Low", .float64, true⟩, Prod.fst⟩
      let high : Accessor (Value × Value) := ⟨⟨"High", .float64, true⟩, Prod.snd⟩
      let fields : FieldIndex (Value × Value) := ⟨"Range", [low, high]⟩
      let p := Predicate.column low high (.compare .greaterThanOrEqual)
      compileOne fields "low" .columnGreaterThanOrEqual (.column "high") = .ok p
      ∧ (∃ q, compileOne fields "high" .columnLessThanOrEqual (.column "low") = .ok q)
      ∧ (∃ q,
          compileOne fields "low" .columnGreaterThan (.column "high") = .ok q
          ∧ ∀ record,
              p.accepts record = true
              ↔ q.accepts record = true ∨ record.1.compare? record.2 = some .eq)
      ∧ p.accepts (.float64 (.zero true), .float64 (.zero false)) = true
      ∧ p.accepts (.float64 .nan, .float64 .nan) = false
      ∧ p.accepts (.null, .null) = false
      ∧ p.accepts (.int32 1, .float64 (.zero false)) = false := by
  intro low high fields p
  have compiled
      : compileOne fields "low" .columnGreaterThanOrEqual (.column "high") = .ok p := by
    dsimp only [fields, low, high, p]
    rfl
  have foundLow : fields.get? "low" = some low := by
    dsimp only [fields, low, high]
    rfl
  have foundHigh : fields.get? "high" = some high := by
    dsimp only [fields, low, high]
    rfl
  obtain ⟨turned, _, weak⟩ := columnComparisons_obey_order fields "low" "high"
  refine ⟨compiled, (turned .greaterThanOrEqual).compiles.mp ⟨p, compiled⟩, ?_, ?_⟩
  · obtain ⟨left, right, q, found, foundOther, strict, accepts⟩ := weak p compiled
    obtain rfl := Option.some.inj (foundLow.symm.trans found)
    obtain rfl := Option.some.inj (foundHigh.symm.trans foundOther)
    exact ⟨q, strict, accepts⟩
  · exact ⟨by decide +kernel, rfl, rfl, rfl⟩

end Compiler

end RecordFilter
