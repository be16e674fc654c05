import RecordFilter.Proofs.Compiler.Acceptance
import RecordFilter.Proofs.Compiler.Conditions
import RecordFilter.Proofs.Matrix.ReadBack

/-! Which matrices survive their document. What compiles and is written can be read back unless a
condition tests a field that is named like a logical operator, and what is read back has the same
outline.
-/

namespace RecordFilter

/-- A matrix without its operands. Empty nodes have no operator. -/
inductive Outline where
  | node (operator : Option LogicalOperator) (tests : List (String × Operator))
    (nested : List Outline)

mutual

/-- The operators of a matrix and the fields and operators of its conditions, each in its place. -/
def Matrix.outline : Matrix → Outline
  | .node op conditions nested =>
      .node
        (if conditions.isEmpty && nested.isEmpty then none else some op)
        (conditions.map fun c => (c.field, c.operator))
        (Matrix.outlines nested)

def Matrix.outlines : List Matrix → List Outline
  | [] => []
  | m :: rest => m.outline :: Matrix.outlines rest

end

theorem Matrix.outlines_eq_map (ms : List Matrix) : outlines ms = ms.map outline := by
  induction ms with
  | nil => rfl
  | cons m rest ih => rw [outlines, ih, List.map_cons]

/-- What is read back has the outline of what was written, by induction on the tree. -/
theorem Matrix.ReadsBack.outline_eq {m m' : Matrix} (h : m.ReadsBack m')
    : m'.outline = m.outline := by
  induction m using Matrix.induction generalizing m' with
  | step op conditions nested ih =>
      cases h with
      | empty => rfl
      | @node _ _ conditions' _ nested' parts hc hn =>
          have tests
              : conditions'.map (fun c => (c.field, c.operator))
                = conditions.map fun c => (c.field, c.operator) :=
            map_eq_of_forall₂ hc fun c _ c' h => by rw [h.keeps.1, h.keeps.2]
          have below : nested'.map outline = nested.map outline :=
            map_eq_of_forall₂ hn fun m hm m' h => ih m hm h
          have sameEmpty
              : (conditions'.isEmpty && nested'.isEmpty)
                = (conditions.isEmpty && nested.isEmpty) := by
            rw [← List.isEmpty_map, tests, List.isEmpty_map, ← @List.isEmpty_map _ _ nested',
              below, List.isEmpty_map]
          rw [outline, outline, outlines_eq_map, outlines_eq_map, tests, below, sameEmpty]

/-- An operand from which a test is built takes the type that is asked for. -/
theorem ValueTest.Built.exists_coerce {type : FieldType} {operand : Operand} {op : Operator}
    {test : ValueTest} (built : Built type operand op test)
    : ∃ target constant, operand.coerce target = .ok constant := by
  cases built with
  | comparison _ _ taken => exact ⟨_, _, taken⟩
  | within _ taken | notWithin _ taken => exact ⟨_, _, taken⟩
  | like _ _ taken | likeIgnoringCase _ _ taken | notLike _ _ taken => exact ⟨_, _, taken⟩

theorem Scalar.eq_json_of_toJson {scalar : Scalar} {members : List (String × Json)}
    (written : scalar.toJson = .ok (.object members))
    : scalar = .json (.object members) := by
  cases scalar with
  | json value =>
      cases written
      rfl
  | float value => cases value <;> cases written
  | bool _ | int _ | decimal _ | string _ | timestamp _ | uuid _ => cases written

/-- The payload of an operand that takes a type is no object, unless a check for null drops it. -/
theorem Condition.payload_ne_object {c : Condition} {target : FieldType} {constant : Value}
    (taken : c.operand.coerce target = .ok constant) (takes : c.operator.isNullCheck = false)
    {members : List (String × Json)}
    : c.payload ≠ .ok (.object members) := by
  intro written
  have writes := (payload_eq_ok_iff takes).mp written
  generalize c.operand = operand at writes taken
  cases writes with
  | single written =>
      rw [Scalar.eq_json_of_toJson written] at taken
      cases taken

section Compiled

variable {ρ : Type} {fields : FieldIndex ρ} {p : Predicate ρ} {c : Condition} {json : Json}

/-- A condition that compiles and is written can be read back unless its field is named like a
logical operator.
-/
theorem Condition.CompilesTo.exists_readsBack_iff (compiles : c.CompilesTo fields p)
    (written : c.toJson = .ok json)
    : (∃ c', c.ReadsBack c') ↔ ∀ op : LogicalOperator, c.field ≠ op.code := by
  refine ⟨fun ⟨c', free, _⟩ op => (free op).symm, fun free => ?_⟩
  obtain ⟨payload, paid, _⟩ := bind_eq_ok_iff.mp written
  obtain ⟨c', hf, ho, reads⟩
      : ∃ c' : Condition,
          c'.field = c.field
          ∧ c'.operator = c.operator
          ∧ Operand.Reads c.operator payload c'.operand := by
    -- What a condition compiles to tells which operands it can have.
    cases compiles with
    | column found named foundOther built =>
        simp only [Condition.payload, named, Except.ok.injEq] at paid
        subst paid
        exact ⟨c, rfl, rfl, named ▸ .column (c.isColumn_iff.mpr ⟨_, named⟩) _⟩
    | isNull found asked =>
        have asks : c.operator.isNullCheck = true := by rw [asked]; rfl
        rw [payload_of_isNullCheck asks] at paid
        cases paid
        obtain ⟨c', hf, ho, same⟩ :=
          c.exists_withOperand .null (by rw [asked]; rfl) (fun name => by simp)
        exact ⟨c', hf, ho, same ▸ .nullCheck asks⟩
    | value found built =>
        obtain ⟨target, constant, taken⟩ := built.exists_coerce
        have notObject (members : List (String × Json)) : payload ≠ .object members := fun same =>
          payload_ne_object taken built.isNullCheck_eq_false (same ▸ paid)
        obtain ⟨operand, stands⟩ := Operand.exists_readsValue c.operator notObject
        obtain ⟨c', hf, ho, same⟩ :=
          c.exists_withOperand operand built.isColumn_eq_false stands.ne_column
        exact ⟨c', hf, ho,
          same ▸ .value built.isColumn_eq_false built.isNullCheck_eq_false stands⟩
  exact ⟨c', fun op => (free op).symm, payload, paid, ofEntry_code_eq_ok_iff.mpr ⟨hf, ho, reads⟩⟩

/-- What compiles under the standard strategies and is written can be read back exactly when no
condition tests a field that is named like a logical operator. What is read back has the same
operators on nodes with parts, and the same fields and operators in conditions, each in its place.
-/
theorem Matrix.ofJson_of_toJson_isOk_iff {limit : Nat} {m : Matrix}
    (compiled : (Compiler.standard.withMaxDepth limit).compile fields m = .ok p)
    (written : m.toJson limit = .ok json)
    : ((∃ m', ofJson json limit = .ok m')
        ↔ ∀ n ∈ m.nodes, ∀ c ∈ n.conditions, ∀ op : LogicalOperator, c.field ≠ op.code)
      ∧ ∀ m', ofJson json limit = .ok m' → m'.outline = m.outline := by
  have each := ((Compiler.compile_isOk_iff _ fields m).mp ⟨p, compiled⟩).2.2
  constructor
  · simp only [ofJson_eq_ok_iff written, exists_readsBack_iff]
    refine forall₂_congr fun n hn => forall₂_congr fun c hc => ?_
    obtain ⟨part, compiles⟩ := each n hn c hc
    obtain ⟨json, written⟩ := exists_toJson_of_toJsonWithin written n hn c hc
    exact ((Compiler.standard_compileCondition_eq_ok_iff rfl).mp compiles).exists_readsBack_iff
      written
  · intro m' read
    exact ((ofJson_eq_ok_iff written).mp read).outline_eq

/-- A negated comparison beside a check for null with an operand of its own. -/
theorem Matrix.ofJson_of_toJson_isOk_iff_of_adults
    : let fields : FieldIndex Value := ⟨"Person", [⟨⟨"age", .int32, true⟩, id⟩]⟩
      let adult : Condition := ⟨"age", .greaterThan, .single (.int 17), by decide⟩
      let unknown : Condition := ⟨"AGE", .isNull, .single (.int 3), by decide⟩
      let m := node .or [unknown] [node .not [adult] []]
      ∃ p json,
        (Compiler.standard.withMaxDepth 2).compile fields m = .ok p
        ∧ m.toJson 2 = .ok json
        ∧ (∃ m', ofJson json 2 = .ok m')
        ∧ ∀ m', ofJson json 2 = .ok m' → m'.outline = m.outline := by
  have free : ∀ op : LogicalOperator, "age" ≠ op.code ∧ "AGE" ≠ op.code := by
    intro op
    cases op <;> decide
  dsimp only
  refine ⟨?p, ?json, ?compiled, ?written,
    (ofJson_of_toJson_isOk_iff ?compiled ?written).1.mpr ?named,
    (ofJson_of_toJson_isOk_iff ?compiled ?written).2⟩
  case compiled => rfl
  case written => rfl
  case named => simp [nodes, nodesOf, conditions, free]

/-- A field with the name of a logical operator: the matrix compiles and is written, and what is
written is refused, since a node has a list of operands and no object.
-/
theorem Matrix.ofJson_of_toJson_error_of_named_and
    : let fields : FieldIndex Value := ⟨"Person", [⟨⟨"_and", .int32, true⟩, id⟩]⟩
      let m := node .and [⟨"_and", .equal, .single (.json (.number "1")), by decide⟩] []
      ∃ p json,
        (Compiler.standard.withMaxDepth 10).compile fields m = .ok p
        ∧ m.toJson 10 = .ok json
        ∧ ofJson json 10 = .error (.serialization (.notOperands "_and")) :=
  ⟨_, _, rfl, rfl, rfl⟩

end Compiled

end RecordFilter
