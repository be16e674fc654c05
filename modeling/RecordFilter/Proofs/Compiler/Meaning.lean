import Mathlib.Data.List.Infix
import RecordFilter.Proofs.Coercion.Basic
import RecordFilter.Proofs.Compiler.Acceptance
import RecordFilter.Proofs.Compiler.Conditions
import RecordFilter.Proofs.Value.Order

/-! What matrices mean for a record, without compiling them: each condition is read off its field
and its operand, and each node combines the meanings of its parts. Compiled predicates accept
exactly the records for which their matrices hold.
-/

namespace RecordFilter

namespace Comparison

/-- What a comparison asks of two values. -/
def meaning (comparison : Comparison) (left right : Value) : Bool :=
  match comparison with
  | .equal => left.equals right
  | .notEqual => !left.equals right
  | .greaterThan => left.compare? right == some .gt
  | .lessThan => left.compare? right == some .lt
  | .greaterThanOrEqual => left.compare? right == some .gt || left.compare? right == some .eq
  | .lessThanOrEqual => left.compare? right == some .lt || left.compare? right == some .eq

theorem holds_eq_meaning (comparison : Comparison) (left right : Value)
    : comparison.holds left right = comparison.meaning left right := by
  rcases order : left.compare? right with _ | _ | _ | _ <;> cases comparison <;>
    simp [holds, meaning, order, Ordering.isGE, Ordering.isLE]

end Comparison

namespace Value

/-- Both values are texts and the first holds the second. -/
def holdsText (ignoresCase : Bool) (whole part : Value) : Bool :=
  match whole.string?, part.string? with
  | some whole, some part =>
      let fold := if ignoresCase then Text.lowercase else id
      decide ((fold part).toList <:+: (fold whole).toList)
  | _, _ => false

/-- Null equals null and nothing else. -/
theorem equals_null (value : Value) : value.equals .null = value.isNull := by
  cases value <;> simp [equals, isNull]

theorem null_equals (value : Value) : null.equals value = value.isNull := by
  cases value <;> simp [equals, isNull]

theorem eq_null_of_isNull {value : Value} (h : value.isNull = true) : value = .null := by
  cases value <;> simp_all [isNull]

theorem compare?_null (value : Value)
    : value.compare? .null = none ∧ null.compare? value = none := by
  cases value <;> simp [compare?]

end Value

/-- Searching finds the infixes, by list induction. -/
theorem Text.occursIn_iff_infix {pattern cs : List Char}
    : occursIn pattern cs = true ↔ pattern <:+: cs := by
  induction cs with
  | nil => simp [occursIn]
  | cons c rest ih =>
      simp [occursIn, ih, List.infix_cons_iff]

theorem Text.contains_eq_decide (text pattern : String)
    : contains text pattern = decide (pattern.toList <:+: text.toList) := by
  rw [Bool.eq_iff_iff, decide_eq_true_iff]
  exact occursIn_iff_infix

namespace Operand

/-- The operand as one constant of the type; a list is none. -/
def constant? (operand : Operand) (type : FieldType) : Option Value :=
  if operand.isCollection then none else (operand.coerce type).toOption

/-- The elements of a list, be it of constants or as it stands in a document. -/
def elements? : Operand → Option (List Scalar)
  | .array items => some items
  | .single (.json (.array items)) => some (items.map .json)
  | _ => none

/-- The elements of a list as constants of the type, each on its own. -/
def constants? (operand : Operand) (type : FieldType) : Option (List Value) := do
  (← operand.elements?).mapM fun item => (item.coerce type).toOption

end Operand

/-- What an operator asks of the value of a field. The rest is there for the operators that look at
it: the constant, the list of constants or the value of another field.
-/
def Operator.meaning? (value : Value) (constant? : Option Value) (constants? : Option (List Value))
    (other? : Option Value)
    : Operator → Option Bool
  | .isNull => some value.isNull
  | .equal => constant?.map (Comparison.equal.meaning value)
  | .notEqual => constant?.map (Comparison.notEqual.meaning value)
  | .greaterThan => constant?.map (Comparison.greaterThan.meaning value)
  | .lessThan => constant?.map (Comparison.lessThan.meaning value)
  | .greaterThanOrEqual => constant?.map (Comparison.greaterThanOrEqual.meaning value)
  | .lessThanOrEqual => constant?.map (Comparison.lessThanOrEqual.meaning value)
  | .within => constants?.map fun items => items.any fun item => item.equals value
  | .notWithin => constants?.map fun items => !items.any fun item => item.equals value
  | .like => constant?.map (value.holdsText false)
  | .likeIgnoringCase => constant?.map (value.holdsText true)
  | .notLike => constant?.map fun pattern => !value.holdsText false pattern
  | .columnEqual => other?.map (Comparison.equal.meaning value)
  | .columnNotEqual => other?.map (Comparison.notEqual.meaning value)
  | .columnGreaterThan => other?.map (Comparison.greaterThan.meaning value)
  | .columnLessThan => other?.map (Comparison.lessThan.meaning value)
  | .columnGreaterThanOrEqual => other?.map (Comparison.greaterThanOrEqual.meaning value)
  | .columnLessThanOrEqual => other?.map (Comparison.lessThanOrEqual.meaning value)
  | .columnLike => other?.map (value.holdsText false)
  | .columnLikeIgnoringCase => other?.map (value.holdsText true)
  | .similar | .notSimilar | .regex | .regexIgnoringCase | .and | .or | .not => none

/-- What a condition says about a record; it says nothing when its fields or constants are missing.
-/
def Condition.meaning? (fields : FieldIndex ρ) (record : ρ) (condition : Condition)
    : Option Bool := do
  let field ← fields.get? condition.field
  condition.operator.meaning? (field.read record)
    (condition.operand.constant? field.type)
    (condition.operand.constants? field.type)
    ((condition.otherField?.bind fields.get?).map fun other => other.read record)

/-- What an operator makes of the meanings of its parts. Without parts it holds. -/
def LogicalOperator.meaning? (op : LogicalOperator) (parts : List Bool) : Option Bool :=
  match op, parts with
  | _, [] => some true
  | .and, parts => some (parts.all id)
  | .or, parts => some (parts.any id)
  | .not, [part] => some !part
  | .not, _ => none

mutual

/-- What a matrix says about a record: its operator combines its conditions and its nested matrices.
-/
def Matrix.meaning? (fields : FieldIndex ρ) (record : ρ) : Matrix → Option Bool
  | .node op conditions nested => do
      let ofConditions ← conditions.mapM fun condition => condition.meaning? fields record
      let ofNested ← Matrix.meanings? fields record nested
      op.meaning? (ofConditions ++ ofNested)

def Matrix.meanings? (fields : FieldIndex ρ) (record : ρ) : List Matrix → Option (List Bool)
  | [] => some []
  | m :: rest => do return (← m.meaning? fields record) :: (← Matrix.meanings? fields record rest)

end

section Elements

variable {operand : Operand} {type : FieldType} {items : List Value}

/-- A list that takes the type of a list does so element by element. -/
theorem Operand.constants?_eq_some (list : operand.isCollection = true)
    (taken : operand.coerce (.array type) = .ok (.array items))
    : operand.constants? type = some items := by
  unfold isCollection at list
  split at list
  next constants =>
    simp only [coerce, bind_eq_ok_iff, mapM_eq_ok_iff] at taken
    obtain ⟨values, each, same⟩ := taken
    cases same
    refine mapM_eq_some_iff.mpr (each.imp fun item value h => ?_)
    rw [h]
    rfl
  next elements =>
    simp only [coerce, Scalar.coerce, Json.convert, Json.convertItems_eq_mapM, bind_eq_ok_iff,
      mapM_eq_ok_iff] at taken
    obtain ⟨values, each, same⟩ := taken
    cases same
    refine mapM_eq_some_iff.mpr (List.forall₂_map_left_iff.mpr (each.imp fun item value h => ?_))
    rw [Scalar.coerce, h]
    rfl
  next => cases list

end Elements

theorem ColumnTest.accepts_contains (ignoresCase : Bool) (left right : Value)
    : (ColumnTest.contains ignoresCase).accepts left right = left.holdsText ignoresCase right := by
  cases left <;> cases right <;> cases ignoresCase <;>
    simp [accepts, Value.holdsText, Value.string?, Text.contains_eq_decide]

theorem ValueTest.accepts_contains (pattern : String) (value : Value)
    : (ValueTest.contains pattern false).accepts value
      = value.holdsText false (.string pattern) := by
  cases value <;> simp [accepts, Value.holdsText, Value.string?, Text.contains_eq_decide]

theorem ValueTest.accepts_contains_lowercase (pattern : String) (value : Value)
    : (ValueTest.contains (Text.lowercase pattern) true).accepts value
      = value.holdsText true (.string pattern) := by
  cases value <;> simp [accepts, Value.holdsText, Value.string?, Text.contains_eq_decide]

section Tests

variable {operand : Operand} {type : FieldType} {left right : FieldType} {op : Operator}

attribute [local simp] ComparisonRule.all ComparisonRule.equal ComparisonRule.notEqual
  ComparisonRule.greaterThan ComparisonRule.lessThan ComparisonRule.greaterThanOrEqual
  ComparisonRule.lessThanOrEqual

/-- A test that is built for an operator tests what the operator asks, by cases on the test. -/
theorem ValueTest.Built.meaning?_eq {test : ValueTest} (built : Built type operand op test)
    (value : Value) (other? : Option Value)
    : op.meaning? value (operand.constant? type) (operand.constants? type) other?
      = some (test.accepts value) := by
  have constant {constant : Value} (single : operand.isCollection = false)
      (taken : operand.coerce type = .ok constant)
      : operand.constant? type = some constant := by
    simp [Operand.constant?, single, taken, Except.toOption]
  cases built with
  | comparison known single taken =>
      simp only [constant single taken, accepts, Comparison.holds_eq_meaning]
      simp at known
      rcases known with rfl | rfl | rfl | rfl | rfl | rfl <;> rfl
  | within list taken =>
      simp only [Operand.constants?_eq_some list taken, accepts]
      rfl
  | notWithin list taken =>
      simp only [Operand.constants?_eq_some list taken, accepts]
      rfl
  | like single _ taken =>
      rw [constant single taken, accepts_contains]
      rfl
  | likeIgnoringCase single _ taken =>
      rw [constant single taken, accepts_contains_lowercase]
      rfl
  | notLike single _ taken =>
      rw [constant single taken, accepts, accepts_contains]
      rfl

theorem ColumnTest.Built.meaning?_eq {test : ColumnTest} (built : Built left right op test)
    (constant? : Option Value) (constants? : Option (List Value)) (value other : Value)
    : op.meaning? value constant? constants? (some other) = some (test.accepts value other) := by
  cases built with
  | comparison known =>
      simp only [accepts, Comparison.holds_eq_meaning]
      simp at known
      rcases known with rfl | rfl | rfl | rfl | rfl | rfl <;> rfl
  | like =>
      rw [accepts_contains]
      rfl
  | likeIgnoringCase =>
      rw [accepts_contains]
      rfl

end Tests

section Compiled

variable {ρ : Type} {fields : FieldIndex ρ} {p : Predicate ρ}

/-- A compiled condition accepts the records that the condition speaks of. -/
theorem Condition.CompilesTo.meaning?_eq {condition : Condition}
    (compiles : condition.CompilesTo fields p) (record : ρ)
    : condition.meaning? fields record = some (p.accepts record) := by
  cases compiles with
  | value found built =>
      simp only [meaning?, found, Option.bind_eq_bind, Option.bind_some]
      exact built.meaning?_eq _ _
  | column found named foundOther built =>
      simp only [meaning?, found, otherField?, named, foundOther, Option.bind_eq_bind,
        Option.bind_some, Option.map_some]
      exact built.meaning?_eq _ _ _ _
  | isNull found asked =>
      simp [meaning?, found, asked, Operator.meaning?, Predicate.accepts]

theorem Predicate.allAccept_eq_all (record : ρ) (parts : List (Predicate ρ))
    : allAccept record parts = parts.all (·.accepts record) := by
  induction parts with
  | nil => rfl
  | cons part rest ih => rw [allAccept, ih, List.all_cons]

theorem Predicate.someAccepts_eq_any (record : ρ) (parts : List (Predicate ρ))
    : someAccepts record parts = parts.any (·.accepts record) := by
  induction parts with
  | nil => rfl
  | cons part rest ih => rw [someAccepts, ih, List.any_cons]

/-- A combination accepts what its operator makes of the parts; a single part stands for itself. -/
theorem Predicate.meaning?_of_combine {op : LogicalOperator} {parts : List (Predicate ρ)}
    (combined : combine op parts = .ok p) (record : ρ)
    : op.meaning? (parts.map (·.accepts record)) = some (p.accepts record) := by
  -- The arms are those of the combination: no part, a single one and more than one.
  match op, parts with
  | .and, [] | .or, [] | .not, [] =>
      cases combined
      rfl
  | .and, [part] | .or, [part] | .not, [part] =>
      cases combined
      simp [LogicalOperator.meaning?, accepts]
  | .and, first :: second :: rest =>
      cases combined
      simp [LogicalOperator.meaning?, accepts, allAccept_eq_all]
  | .or, first :: second :: rest =>
      cases combined
      simp [LogicalOperator.meaning?, accepts, someAccepts_eq_any]
  | .not, first :: second :: rest => cases combined

/-- The order of the parts makes no difference to an operator. -/
theorem LogicalOperator.meaning?_perm (op : LogicalOperator) {verdicts others : List Bool}
    (same : verdicts.Perm others)
    : op.meaning? verdicts = op.meaning? others := by
  match verdicts, others with
  | [], others => rw [List.nil_perm.mp same]
  | first :: rest, [] => cases same.eq_nil
  | first :: rest, other :: more =>
      cases op with
      | and => exact congrArg some same.all_eq
      | or => exact congrArg some same.any_eq
      | not =>
          cases rest with
          | nil => rw [List.singleton_perm.mp same]
          | cons second rest =>
              cases more with
              | nil => cases List.perm_singleton.mp same
              | cons => rfl

/-- Combinations of parts with the same verdicts in any order have the same verdict. -/
theorem Predicate.accepts_eq_of_combine {ρ' : Type} {op : LogicalOperator}
    {parts : List (Predicate ρ)} {parts' : List (Predicate ρ')} {p : Predicate ρ}
    {p' : Predicate ρ'} {record : ρ} {record' : ρ'} (combined : combine op parts = .ok p)
    (combined' : combine op parts' = .ok p')
    (same : (parts.map (·.accepts record)).Perm (parts'.map (·.accepts record')))
    : p.accepts record = p'.accepts record' := by
  apply Option.some.inj
  rw [← meaning?_of_combine combined record, ← meaning?_of_combine combined' record',
    op.meaning?_perm same]

theorem Matrix.meanings?_eq_mapM (record : ρ) (ms : List Matrix)
    : meanings? fields record ms = ms.mapM fun m => m.meaning? fields record := by
  induction ms with
  | nil => rfl
  | cons m rest ih => rw [meanings?, ih, List.mapM_cons]

/-- Within any number of levels a compiled matrix accepts the records that the matrix speaks of, as
its parts do.
-/
theorem Compiler.meaning?_of_compileWithin {compiler : Compiler}
    (standard : compiler.strategies = .standard) (record : ρ) {levels : Nat} {m : Matrix}
    (compiled : compiler.compileWithin fields levels m = .ok p)
    : m.meaning? fields record = some (p.accepts record) := by
  refine compileWithin_induction ?_ compiled
  intro op conditions nested parts subtrees p hc hn combined
  have ofConditions
      : conditions.mapM (fun c => c.meaning? fields record)
        = some (parts.map (·.accepts record)) := by
    refine mapM_eq_some_iff.mpr (List.forall₂_map_right_iff.mpr (hc.imp fun c part h => ?_))
    exact ((standard_compileCondition_eq_ok_iff standard).mp h).meaning?_eq record
  have ofNested
      : Matrix.meanings? fields record nested = some (subtrees.map (·.accepts record)) := by
    rw [Matrix.meanings?_eq_mapM]
    exact mapM_eq_some_iff.mpr (List.forall₂_map_right_iff.mpr hn)
  have ofParts := Predicate.meaning?_of_combine combined record
  rw [List.map_append] at ofParts
  simpa [Matrix.meaning?, ofConditions, ofNested] using ofParts

/-- Whatever the standard compiler makes of a matrix accepts the records for which the matrix holds,
and the matrix has a meaning for each of them. Null equals only null, and neither null nor values of
different kinds are in an order.
-/
theorem Compiler.compile_accepts_eq_meaning {limit : Nat} {m : Matrix}
    (compiled : (standard.withMaxDepth limit).compile fields m = .ok p)
    : (∀ record, m.meaning? fields record = some (p.accepts record))
      ∧ (∀ value : Value,
          Comparison.equal.meaning value .null = value.isNull
          ∧ Comparison.equal.meaning .null value = value.isNull)
      ∧ ∀ (comparison : Comparison) (left right : Value),
          comparison.isOrdering = true →
          left.isNull = true ∨ right.isNull = true ∨ left.kind ≠ right.kind →
          comparison.meaning left right = false := by
  refine ⟨fun record => ?_, fun value => ?_, fun comparison left right orders apart => ?_⟩
  · exact meaning?_of_compileWithin rfl record compiled
  · exact ⟨value.equals_null, value.null_equals⟩
  · have unordered : left.compare? right = none := by
      rcases apart with h | h | h
      · rw [Value.eq_null_of_isNull h]
        exact (Value.compare?_null right).2
      · rw [Value.eq_null_of_isNull h]
        exact (Value.compare?_null left).1
      · exact (Value.apart_of_kind_ne h).2
    cases comparison <;> simp [Comparison.meaning, unordered, Comparison.isOrdering] at orders ⊢

/-- Grown people and those of unknown age, unless they are a hundred. -/
theorem Compiler.compile_accepts_eq_meaning_of_adults
    : let fields : FieldIndex Value := ⟨"Person", [⟨⟨"age", .int32, true⟩, id⟩]⟩
      let adult : Condition := ⟨"AGE", .greaterThan, .single (.int 17), by decide⟩
      let unknown : Condition := ⟨"age", .isNull, .null, by decide⟩
      let old : Condition := ⟨"age", .within, .array [.string "100"], by decide⟩
      let m := Matrix.node .and [] [.node .or [adult, unknown] [], .node .not [old] []]
      ∃ p,
        (standard.withMaxDepth 2).compile fields m = .ok p
        ∧ (∀ record, m.meaning? fields record = some (p.accepts record))
        ∧ [.int32 20, .int32 3, .null, .int32 100].map p.accepts = [true, false, true, false] :=
  ⟨_, rfl, (@compile_accepts_eq_meaning _ _ _ 2 _ rfl).1, rfl⟩

end Compiled

end RecordFilter
