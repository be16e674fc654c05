import RecordFilter.Proofs.Coercion.Agreement
import RecordFilter.Proofs.Compiler.Meaning
import RecordFilter.Proofs.Compiler.Single
import RecordFilter.Proofs.Matrix.ReadBack

/-! A matrix and what its document is read back as accept the same records wherever both compile.
Operands change their form on the way; their constants take the types of the fields to values that
no test tells apart.
-/

namespace RecordFilter

namespace Value.Alike

variable {left right : Value}

theorem meaning (h : left.Alike right) (comparison : Comparison) (value : Value)
    : comparison.meaning value left = comparison.meaning value right := by
  cases comparison <;> simp only [Comparison.meaning, h.equals_right, h.compare_right]

theorem holdsText (h : left.Alike right) (ignoresCase : Bool) (value : Value)
    : value.holdsText ignoresCase left = value.holdsText ignoresCase right := by
  simp only [Value.holdsText, h.string]

/-- Lists of values that no test tells apart hold the same values, by induction on the pairs. -/
theorem any_equals {lefts rights : List Value} (h : List.Forall₂ Alike lefts rights)
    (value : Value)
    : (lefts.any fun item => item.equals value) = rights.any fun item => item.equals value := by
  induction h with
  | nil => rfl
  | cons head _ ih => rw [List.any_cons, List.any_cons, head.equals_left, ih]

end Value.Alike

namespace Operand

/-- The constants of an operand, as they are given. -/
def scalars : Operand → List Scalar
  | .single scalar => [scalar]
  | .array items => items
  | _ => []

/-- A document gives the constants of the operand to the type as they are. -/
def ExactFor (operand : Operand) (type : FieldType) : Prop :=
  ∀ scalar ∈ operand.scalars, scalar.ExactFor type

/-- The operand that the payload of another one is read back as, outside of checks for null. -/
inductive ReadsBack (op : Operator) : Operand → Operand → Prop
  | column (name : String) : ReadsBack op (.column name) (.column name)
  | null : ReadsBack op .null .null
  | pattern {text : String} {result : Operand} (stands : ReadsValue op (.string text) result)
    : ReadsBack op (.pattern text) result
  | single {scalar : Scalar} {json : Json} {result : Operand} (written : scalar.toJson = .ok json)
    (stands : ReadsValue op json result)
    : ReadsBack op (.single scalar) result
  | array {items : List Scalar} {jsons : List Json}
    (written : List.Forall₂ (fun item json => item.toJson = .ok json) items jsons)
    : ReadsBack op (.array items) (.array (jsons.map .json))

/-- A single operand of a document takes types as its payload does, or is a pattern for text. -/
theorem ReadsValue.coerce_eq {op : Operator} {json : Json} {result : Operand}
    (stands : ReadsValue op json result) (single : result.isCollection = false)
    : (∀ type, result.coerce type = (Scalar.json json).coerce type)
      ∨ ∃ text, json = .string text ∧ result = .pattern text := by
  cases stands with
  | null | bool | number | string => exact .inl fun type => rfl
  | pattern _ text => exact .inr ⟨text, rfl, rfl⟩
  | array items => cases single

theorem constant?_eq_some_iff {operand : Operand} {type : FieldType} {value : Value}
    : operand.constant? type = some value
      ↔ operand.isCollection = false ∧ operand.coerce type = .ok value := by
  unfold constant?
  cases operand.isCollection <;> simp [toOption_eq_some_iff]

namespace ReadsBack

variable {op : Operator} {operand result : Operand} {type : FieldType}

/-- A constant and what it is read back as become values that no test tells apart, by cases on the
operand.
-/
theorem constant?_alike {left right : Value} (h : ReadsBack op operand result)
    (exact : operand.ExactFor type) (hl : operand.constant? type = some left)
    (hr : result.constant? type = some right)
    : left.Alike right := by
  obtain ⟨_, native⟩ := constant?_eq_some_iff.mp hl
  obtain ⟨single, reread⟩ := constant?_eq_some_iff.mp hr
  -- What a single constant is read back as, also the text of a pattern.
  have agree {scalar : Scalar} {json : Json} (written : scalar.toJson = .ok json)
      (exact : scalar.ExactFor type) (native : scalar.coerce type = .ok left)
      (stands : ReadsValue op json result)
      : left.Alike right := by
    rcases stands.coerce_eq single with same | ⟨text, rfl, rfl⟩
    · rw [same] at reread
      exact Scalar.coerce_alike_of_toJson written exact native reread
    · exact .of_eq (Scalar.coerce_eq_of_string written exact native reread)
  cases h with
  | column name => cases native
  | null => exact .of_eq (Except.ok.inj (native.symm.trans reread))
  | @pattern text _ stands =>
      exact @agree (.string text) (.string text) rfl trivial native stands
  | single written stands => exact agree written (exact _ List.mem_cons_self) native stands
  | array written => cases single

/-- The elements of a list and what they are read back as become values that no test tells apart,
pair by pair.
-/
theorem constants?_alike {lefts rights : List Value} (h : ReadsBack op operand result)
    (exact : operand.ExactFor type) (hl : operand.constants? type = some lefts)
    (hr : result.constants? type = some rights)
    : List.Forall₂ Value.Alike lefts rights := by
  cases h with
  | column name => cases hl
  | null => cases hl
  | pattern stands => cases hl
  | @single scalar json _ written stands =>
      cases scalar with
      | json json' =>
          cases written
          cases json with
          | array items =>
              -- A list of a document is read back as the same list.
              cases stands
              have same : some lefts = some rights := hl.symm.trans hr
              cases same
              exact List.forall₂_same.mpr fun value _ => .refl value
          | null | bool _ | number _ | string _ | object _ => cases hl
      | bool _ | int _ | float _ | decimal _ | string _ | timestamp _ | uuid _ => cases hl
  | @array items jsons written =>
      rw [constants?, elements?, Option.bind_eq_bind, Option.bind_some, mapM_eq_some_iff] at hl hr
      rw [List.forall₂_map_left_iff] at hr
      simp only [toOption_eq_some_iff] at hl hr
      refine forall₂_of_partners written hl hr fun scalar member json written left right => ?_
      exact Scalar.coerce_alike_of_toJson written (exact scalar member)

end ReadsBack

end Operand

section Agreement

variable {op : Operator} {value : Value} {constant constant' other : Option Value}
  {constants constants' : Option (List Value)} {holds holds' : Bool}

/-- An operator asks the same of constants that no test tells apart, by cases on the operator. -/
theorem Operator.meaning?_agrees
    (alike : ∀ left right, constant = some left → constant' = some right → left.Alike right)
    (each
      : ∀ lefts rights,
          constants = some lefts →
          constants' = some rights →
          List.Forall₂ Value.Alike lefts rights)
    (hl : op.meaning? value constant constants other = some holds)
    (hr : op.meaning? value constant' constants' other = some holds')
    : holds = holds' := by
  have single {f : Value → Bool}
      (congr : ∀ left right : Value, left.Alike right → f left = f right)
      (hl : constant.map f = some holds) (hr : constant'.map f = some holds')
      : holds = holds' := by
    obtain ⟨left, hleft, rfl⟩ := Option.map_eq_some_iff.mp hl
    obtain ⟨right, hright, rfl⟩ := Option.map_eq_some_iff.mp hr
    exact congr left right (alike left right hleft hright)
  cases op with
  | equal | notEqual | greaterThan | lessThan | greaterThanOrEqual | lessThanOrEqual =>
      exact single (fun _ _ h => h.meaning _ value) hl hr
  | like | likeIgnoringCase => exact single (fun _ _ h => h.holdsText _ value) hl hr
  | notLike => exact single (fun _ _ h => congrArg (!·) (h.holdsText false value)) hl hr
  | within =>
      obtain ⟨lefts, hleft, rfl⟩ := Option.map_eq_some_iff.mp hl
      obtain ⟨rights, hright, rfl⟩ := Option.map_eq_some_iff.mp hr
      exact Value.Alike.any_equals (each lefts rights hleft hright) value
  | notWithin =>
      obtain ⟨lefts, hleft, rfl⟩ := Option.map_eq_some_iff.mp hl
      obtain ⟨rights, hright, rfl⟩ := Option.map_eq_some_iff.mp hr
      exact congrArg (!·) (Value.Alike.any_equals (each lefts rights hleft hright) value)
  | _ => exact Option.some.inj (hl.symm.trans hr)

end Agreement

/-- The constants of a condition are exact for the type of its field. -/
def Condition.Exact (fields : FieldIndex ρ) (condition : Condition) : Prop :=
  ∀ field, fields.get? condition.field = some field → condition.operand.ExactFor field.type

namespace Condition.ReadsBack

variable {c c' : Condition}

/-- Outside of checks for null a condition is read back with the operand its payload stands for. -/
theorem operand (h : c.ReadsBack c') (takes : c.operator.isNullCheck = false)
    : Operand.ReadsBack c.operator c.operand c'.operand := by
  obtain ⟨_, payload, paid, read⟩ := h
  obtain ⟨_, _, reads⟩ := ofEntry_code_eq_ok_iff.mp read
  have writes := (payload_eq_ok_iff takes).mp paid
  generalize c'.operand = result at reads
  cases reads with
  | nullCheck asks => simp [takes] at asks
  | column compares name =>
      obtain ⟨other, named⟩ := c.isColumn_iff.mp compares
      rw [named] at writes ⊢
      cases writes
      exact .column name
  | value tests _ stands =>
      have unnamed (name : String) (named : c.operand = .column name) : False := by
        simp [c.isColumn_iff.mpr ⟨name, named⟩] at tests
      generalize c.operand = operand at writes unnamed
      cases writes with
      | column name => exact (unnamed name rfl).elim
      | null =>
          cases stands
          exact .null
      | pattern text => exact .pattern stands
      | single written => exact .single written stands
      | array written =>
          cases stands
          exact .array written

/-- A condition is read back with the other field that it names, if it names one. -/
theorem otherField?_eq (h : c.ReadsBack c') (takes : c.operator.isNullCheck = false)
    : c'.otherField? = c.otherField? := by
  have operand := h.operand takes
  have same := h.keeps.2
  cases compares : c.operator.isColumn with
  | true =>
      obtain ⟨name, named⟩ := c.isColumn_iff.mp compares
      rw [named] at operand
      generalize named' : c'.operand = result at operand
      cases operand with
      | column => rw [otherField?, otherField?, named, named']
  | false =>
      have unnamed (condition : Condition) (h : condition.operator.isColumn = false)
          : condition.otherField? = none := by
        unfold otherField?
        split
        next name named => simp [condition.isColumn_iff.mpr ⟨name, named⟩] at h
        next => rfl
      rw [unnamed c compares, unnamed c' (same ▸ compares)]

variable {ρ : Type} {fields : FieldIndex ρ} {record : ρ} {holds holds' : Bool}

/-- A condition and what it is read back as say the same about a record. -/
theorem meaning?_agrees (h : c.ReadsBack c') (exact : c.Exact fields)
    (hl : c.meaning? fields record = some holds) (hr : c'.meaning? fields record = some holds')
    : holds = holds' := by
  obtain ⟨sameField, sameOperator⟩ := h.keeps
  rw [Condition.meaning?, Option.bind_eq_bind, Option.bind_eq_some_iff] at hl hr
  obtain ⟨field, found, hl⟩ := hl
  obtain ⟨field', found', hr⟩ := hr
  rw [sameField, found, Option.some.injEq] at found'
  subst found'
  rw [sameOperator] at hr
  cases takes : c.operator.isNullCheck with
  | true =>
      rw [Operator.eq_isNull_of_isNullCheck takes] at hl hr
      exact Option.some.inj (hl.symm.trans hr)
  | false =>
      have operand := h.operand takes
      have exact := exact field found
      rw [h.otherField?_eq takes] at hr
      exact Operator.meaning?_agrees (fun _ _ => operand.constant?_alike exact)
        (fun _ _ => operand.constants?_alike exact) hl hr

end Condition.ReadsBack

namespace Matrix.ReadsBack

variable {m m' : Matrix}

variable {ρ : Type} {fields : FieldIndex ρ} {record : ρ} {holds holds' : Bool}

/-- A matrix and what it is read back as say the same about a record, by induction on the tree. -/
theorem meaning?_agrees (h : m.ReadsBack m')
    (exact : ∀ n ∈ m.nodes, ∀ c ∈ n.conditions, c.Exact fields)
    (hl : m.meaning? fields record = some holds) (hr : m'.meaning? fields record = some holds')
    : holds = holds' := by
  induction m using Matrix.induction generalizing m' holds holds' with
  | step op conditions nested ih =>
      rw [forall_nodes_node_iff] at exact
      obtain ⟨here, below⟩ := exact
      cases h with
      | empty => exact Option.some.inj (hl.symm.trans hr)
      | node _ _ hc hn =>
          simp only [Matrix.meaning?, meanings?_eq_mapM, Option.bind_eq_bind,
            Option.bind_eq_some_iff, mapM_eq_some_iff] at hl hr
          obtain ⟨left, hcl, left', hnl, hl⟩ := hl
          obtain ⟨right, hcr, right', hnr, hr⟩ := hr
          have ofConditions : List.Forall₂ Eq left right :=
            forall₂_of_partners hc hcl hcr fun c member c' h _ _ hl hr =>
              h.meaning?_agrees (here c member) hl hr
          have ofNested : List.Forall₂ Eq left' right' :=
            forall₂_of_partners hn hnl hnr fun m member m' h _ _ hl hr =>
              ih m member h (below m member) hl hr
          rw [List.forall₂_eq_eq_eq] at ofConditions ofNested
          subst ofConditions ofNested
          exact Option.some.inj (hl.symm.trans hr)

end Matrix.ReadsBack

section RoundTrip

variable {ρ : Type} {fields : FieldIndex ρ} {limit : Nat} {m m' : Matrix} {p p' : Predicate ρ}
  {json : Json}

/-- A matrix that compiles and what its document is read back as, if that compiles too, have the
same depth and accept the same records, provided that no condition holds a floating point number or,
on a field of such numbers, a decimal number, and none on a field of instants holds an instant whose
second is shown as the next one.
-/
theorem Matrix.accepts_ofJson_of_toJson
    (exact : ∀ n ∈ m.nodes, ∀ c ∈ n.conditions, c.Exact fields)
    (compiled : (Compiler.standard.withMaxDepth limit).compile fields m = .ok p)
    (written : m.toJson limit = .ok json) (read : ofJson json limit = .ok m')
    (recompiled : (Compiler.standard.withMaxDepth limit).compile fields m' = .ok p')
    : m'.depth = m.depth ∧ ∀ record, p'.accepts record = p.accepts record := by
  have back := (ofJson_eq_ok_iff written).mp read
  refine ⟨back.depth_eq, fun record => ?_⟩
  have before := Compiler.meaning?_of_compileWithin rfl record compiled
  have after := Compiler.meaning?_of_compileWithin rfl record recompiled
  exact (back.meaning?_agrees exact before after).symm

/-- A native number is read back as the text of it, and the operator of an empty node is lost. -/
theorem Matrix.accepts_ofJson_of_toJson_of_adults
    : let fields : FieldIndex Value := ⟨"Person", [⟨⟨"age", .int32, true⟩, id⟩]⟩
      let native : Condition := ⟨"age", .greaterThan, .single (.int 17), by decide⟩
      let reread : Condition := ⟨"age", .greaterThan, .single (.json (.number "17")), by decide⟩
      let m := node .and [native] [node .not [] []]
      let m' := node .and [reread] [node .and [] []]
      ∃ p p' json,
        (Compiler.standard.withMaxDepth 2).compile fields m = .ok p
        ∧ m.toJson 2 = .ok json
        ∧ ofJson json 2 = .ok m'
        ∧ (Compiler.standard.withMaxDepth 2).compile fields m' = .ok p'
        ∧ ∀ record, p'.accepts record = p.accepts record := by
  dsimp only
  refine ⟨?p, ?p', ?json, ?compiled, ?written, ?read, ?recompiled,
    (accepts_ofJson_of_toJson ?exact ?compiled ?written ?read ?recompiled).2⟩
  case compiled => rfl
  case written => rfl
  case recompiled => rfl
  case read => rfl
  case exact =>
    simp [nodes, nodesOf, conditions, Condition.Exact, Operand.ExactFor, Operand.scalars,
      Scalar.ExactFor]

/-- Half a second past the end of a second is read back as half past the start of the next one, and
selects the record that the matrix itself does not select.
-/
theorem Matrix.accepts_ofJson_of_toJson_of_overrun
    : let field : Accessor Value := ⟨⟨"at", .timestamp, true⟩, id⟩
      let fields : FieldIndex Value := ⟨"Event", [field]⟩
      let date : Date := ⟨2024, 1, 1, by decide⟩
      let overrun : Timestamp := ⟨date, 12, 0, 0, 1500000000, by decide⟩
      let next : Timestamp := ⟨date, 12, 0, 1, 500000000, by decide⟩
      let m := node .and [⟨"at", .equal, .single (.timestamp overrun), by decide⟩] []
      let text := Json.string overrun.text
      let m' := node .and [⟨"at", .equal, .single (.json text), by rfl⟩] []
      let json := Json.object [("_and", .array [.object [("at", .object [("_eq", text)])]])]
      let p := Predicate.value field (.compare .equal (.timestamp overrun))
      let p' := Predicate.value field (.compare .equal (.timestamp next))
      (Compiler.standard.withMaxDepth 1).compile fields m = .ok p
      ∧ m.toJson 1 = .ok json
      ∧ ofJson json 1 = .ok m'
      ∧ (Compiler.standard.withMaxDepth 1).compile fields m' = .ok p'
      ∧ p.accepts (.timestamp next) = false
      ∧ p'.accepts (.timestamp next) = true := by
  intro field fields date overrun next m text m' json p p'
  have found : fields.get? "at" = some field := by
    dsimp only [fields, field]
    rfl
  have known : ComparisonRule.equal ∈ ComparisonRule.all := List.mem_cons_self
  have compiled {scalar : Scalar} {t : Timestamp} {valid}
      (single : (Operand.single scalar).isCollection = false)
      (taken : scalar.coerce .timestamp = .ok (.timestamp t))
      : (Compiler.standard.withMaxDepth 1).compile fields
          (node .and [⟨"at", .equal, .single scalar, valid⟩] [])
        = .ok (.value field (.compare .equal (.timestamp t))) := by
    refine (Compiler.compileWithin_singleton_eq_ok_iff rfl).mpr (.value found ?_)
    exact .comparison known single taken (by decide)
  have plain : overrun.HasPlainYear := by
    constructor <;> decide
  have overruns : overrun.Overruns := by
    constructor <;> decide
  have shown : overrun.shown = next := by
    rw [Timestamp.shown, dif_pos overruns, Timestamp.mk.injEq]
    exact ⟨rfl, rfl, rfl, rfl, by decide⟩
  have again : Timestamp.ofText? overrun.text = some next := by
    rw [Timestamp.ofText?_text, if_pos plain, shown]
  have reread : (Scalar.json text).coerce .timestamp = .ok (.timestamp next) := by
    rw [Scalar.coerce, Json.convert_eq_ok_iff (by simp [text]) (by simp), Json.toValue?, again]
    rfl
  exact ⟨compiled rfl rfl, rfl, rfl, compiled rfl reread, rfl, rfl⟩

end RoundTrip

end RecordFilter
