import RecordFilter.Matrix.Document.Reading
import RecordFilter.Matrix.Document.Writing
import RecordFilter.Proofs.Condition
import RecordFilter.Proofs.Matrix.Tree
import RecordFilter.Proofs.Traversal

/-! What the document of a matrix is read back as. Each condition keeps its field and its operator,
and takes the operand that its payload stands for; a condition on a field that is named like a
logical operator is taken for a node and not read back at all.
-/

namespace RecordFilter

theorem Operator.ofCode?_code (op : Operator) : ofCode? op.code = some op := by
  cases op <;> decide

theorem Operator.resolve_code (op : Operator) : resolve op.code = .ok op := by
  simp [resolve, ofCode?_code]

theorem LogicalOperator.resolve_code (op : LogicalOperator) : resolve op.code = .ok op := by
  cases op <;> rfl

theorem Operator.ofCode?_eq_some_iff {code : String} {op : Operator}
    : ofCode? code = some op ↔ op.code = code := by
  constructor
  · intro h
    simpa using List.find?_some h
  · intro h
    rw [← h]
    exact ofCode?_code op

theorem Operator.isLogical_iff {op : Operator}
    : op.isLogical = true ↔ ∃ logical : LogicalOperator, logical.operator = op := by
  constructor
  · intro h
    cases op with
    | and => exact ⟨.and, rfl⟩
    | or => exact ⟨.or, rfl⟩
    | not => exact ⟨.not, rfl⟩
    | _ => cases h
  · intro h
    obtain ⟨logical, rfl⟩ := h
    cases logical <;> rfl

theorem Operator.isColumn_eq_false_of_isNullCheck {op : Operator} (h : op.isNullCheck = true)
    : op.isColumn = false := by
  rw [isNullCheck, beq_iff_eq] at h
  rw [isColumn, h]
  rfl

/-- The payload that an operand is written as, outside of checks for null. -/
inductive Operand.Writes : Operand → Json → Prop
  | column (name : String) : Writes (.column name) (.array [.string name])
  | null : Writes .null .null
  | pattern (text : String) : Writes (.pattern text) (.string text)
  | single {scalar : Scalar} {json : Json} (written : scalar.toJson = .ok json)
    : Writes (.single scalar) json
  | array {items : List Scalar} {jsons : List Json}
    (written : List.Forall₂ (fun item json => item.toJson = .ok json) items jsons)
    : Writes (.array items) (.array jsons)

theorem Condition.payload_eq_ok_iff {condition : Condition} {json : Json}
    (takes : condition.operator.isNullCheck = false)
    : condition.payload = .ok json ↔ condition.operand.Writes json := by
  unfold payload
  rw [takes]
  constructor
  · intro written
    cases same : condition.operand with
    | column name | null | pattern text =>
        rw [same] at written
        cases written
        constructor
    | single scalar =>
        rw [same] at written
        exact .single written
    | array items =>
        rw [same] at written
        obtain ⟨jsons, each, written⟩ := bind_eq_ok_iff.mp written
        cases written
        exact .array (mapM_eq_ok_iff.mp each)
  · intro writes
    generalize condition.operand = operand at writes
    cases writes with
    | column | null | pattern => rfl
    | single written => exact written
    | array written => exact bind_eq_ok_iff.mpr ⟨_, mapM_eq_ok_iff.mpr written, rfl⟩

/-- A check for null is written as true. -/
theorem Condition.payload_of_isNullCheck {c : Condition} (asks : c.operator.isNullCheck = true)
    : c.payload = .ok (.bool true) := by
  cases same : c.operand with
  | column name =>
      have compares := c.isColumn_iff.mpr ⟨name, same⟩
      simp [Operator.isColumn_eq_false_of_isNullCheck asks] at compares
  | null | single _ | array _ | pattern _ => simp [payload, same, asks]

/-- The operands that payloads stand for under an operator that tests a field against constants:
none for null, a list for its items, and a pattern for a text where the operator is one on text. Any
other value but an object stands for itself.
-/
inductive Operand.ReadsValue (op : Operator) : Json → Operand → Prop
  | null : ReadsValue op .null .null
  | bool (value : Bool) : ReadsValue op (.bool value) (.single (.json (.bool value)))
  | number (text : String) : ReadsValue op (.number text) (.single (.json (.number text)))
  | pattern (searches : op.isText = true) (text : String)
    : ReadsValue op (.string text) (.pattern text)
  | string (compares : op.isText = false) (text : String)
    : ReadsValue op (.string text) (.single (.json (.string text)))
  | array (items : List Json) : ReadsValue op (.array items) (.array (items.map .json))

/-- The operands that payloads stand for under an operator. -/
inductive Operand.Reads (op : Operator) : Json → Operand → Prop
  | column (compares : op.isColumn = true) (name : String)
    : Reads op (.array [.string name]) (.column name)
  | nullCheck (asks : op.isNullCheck = true) : Reads op (.bool true) .null
  | value {payload : Json} {operand : Operand} (tests : op.isColumn = false)
    (takes : op.isNullCheck = false) (stands : ReadsValue op payload operand)
    : Reads op payload operand

/-- A payload is read as the operand that it stands for, by cases on the payload. -/
theorem Operand.ofPayload_eq_ok_iff {op : Operator} {payload : Json} {operand : Operand}
    : ofPayload op payload = .ok operand ↔ ReadsValue op payload operand := by
  constructor
  · intro read
    cases payload with
    | null =>
        cases read
        exact .null
    | bool value =>
        cases read
        exact .bool value
    | number text =>
        cases read
        exact .number text
    | string text =>
        cases searches : op.isText with
        | true =>
            rw [ofPayload, searches] at read
            cases read
            exact .pattern searches text
        | false =>
            rw [ofPayload, searches] at read
            cases read
            exact .string searches text
    | array items =>
        cases read
        exact .array items
    | object members => cases read
  · intro stands
    cases stands with
    | null | bool | number | array => rfl
    | pattern searches text =>
        rw [ofPayload, searches]
        rfl
    | string compares text =>
        rw [ofPayload, compares]
        rfl

/-- Every payload but an object stands for an operand. -/
theorem Operand.exists_readsValue (op : Operator) {payload : Json}
    (plain : ∀ members, payload ≠ .object members)
    : ∃ operand, ReadsValue op payload operand := by
  cases payload with
  | null => exact ⟨_, .null⟩
  | bool value => exact ⟨_, .bool value⟩
  | number text => exact ⟨_, .number text⟩
  | string text =>
      cases searches : op.isText with
      | true => exact ⟨_, .pattern searches text⟩
      | false => exact ⟨_, .string searches text⟩
  | array items => exact ⟨_, .array items⟩
  | object members => exact absurd rfl (plain members)

/-- Constants name no field. -/
theorem Operand.ReadsValue.ne_column {op : Operator} {payload : Json} {operand : Operand}
    (stands : ReadsValue op payload operand) (name : String)
    : operand ≠ .column name := by
  cases stands <;> simp

/-- An entry is read as the condition on its field with its operator and what its payload stands
for.
-/
theorem Condition.ofEntry_code_eq_ok_iff {field : String} {op : Operator} {payload : Json}
    {condition : Condition}
    : ofEntry field op.code payload = .ok condition
      ↔ condition.field = field
        ∧ condition.operator = op
        ∧ Operand.Reads op payload condition.operand := by
  simp only [ofEntry, Operator.resolve_code, ok_bind]
  constructor
  · intro h
    split at h
    next compares =>
      split at h
      next name =>
        rw [column, if_pos compares, make_eq_ok_iff] at h
        exact ⟨h.1, h.2.1, h.2.2 ▸ .column compares name⟩
      next => cases h
    next tests =>
      split at h
      next asks =>
        split at h
        next =>
          rw [make_eq_ok_iff] at h
          exact ⟨h.1, h.2.1, h.2.2 ▸ .nullCheck asks⟩
        next => cases h
      next takes =>
        obtain ⟨operand, read, h⟩ := bind_eq_ok_iff.mp h
        rw [make_eq_ok_iff] at h
        exact ⟨h.1, h.2.1,
          h.2.2 ▸ .value (by simpa using tests) (by simpa using takes)
            (Operand.ofPayload_eq_ok_iff.mp read)⟩
  · intro ⟨hf, ho, reads⟩
    generalize same : condition.operand = operand at reads
    cases reads with
    | column compares name =>
        rw [if_pos compares]
        change column field op name = .ok condition
        rw [column, if_pos compares]
        exact make_eq_ok_iff.mpr ⟨hf, ho, same⟩
    | nullCheck asks =>
        have tests := Operator.isColumn_eq_false_of_isNullCheck asks
        rw [if_neg (by simp [tests]), if_pos asks]
        exact make_eq_ok_iff.mpr ⟨hf, ho, same⟩
    | value tests takes stands =>
        rw [if_neg (by simp [tests]), if_neg (by simp [takes])]
        have read := Operand.ofPayload_eq_ok_iff.mpr stands
        exact bind_eq_ok_iff.mpr ⟨operand, read, make_eq_ok_iff.mpr ⟨hf, ho, same⟩⟩

/-- An element with one key is read as a node when the key is the code of a logical operator. -/
theorem Matrix.isNode_singleton_iff {name : String} {json : Json}
    : isNode [(name, json)] = true ↔ ∃ op : LogicalOperator, op.code = name := by
  simp only [isNode, Option.any_eq_true, Operator.ofCode?_eq_some_iff, Operator.isLogical_iff]
  constructor
  · intro h
    obtain ⟨_, rfl, logical, rfl⟩ := h
    exact ⟨logical, rfl⟩
  · intro h
    obtain ⟨logical, rfl⟩ := h
    exact ⟨_, rfl, logical, rfl⟩

section Elements

variable {read : Json → Except Error Matrix} {members : List (String × Json)} {rest : List Json}
  {conditions : List Condition} {nested : List Matrix}

theorem Matrix.readElements_node_cons_eq_ok_iff (node : isNode members = true)
    : readElements read (.object members :: rest) = .ok (conditions, nested)
      ↔ ∃ m ms,
          read (.object members) = .ok m
          ∧ readElements read rest = .ok (conditions, ms)
          ∧ nested = m :: ms := by
  simp only [readElements, node, if_true, bind_eq_ok_iff, pure_eq_ok, Except.ok.injEq,
    Prod.exists, Prod.mk.injEq]
  constructor
  · intro h
    obtain ⟨m, hm, cs, ms, hrest, rfl, rfl⟩ := h
    exact ⟨m, ms, hm, hrest, rfl⟩
  · intro h
    obtain ⟨m, ms, hm, hrest, rfl⟩ := h
    exact ⟨m, hm, conditions, ms, hrest, rfl, rfl⟩

theorem Matrix.readElements_condition_cons_eq_ok_iff (condition : isNode members = false)
    : readElements read (.object members :: rest) = .ok (conditions, nested)
      ↔ ∃ c cs,
          Condition.ofMembers members = .ok c
          ∧ readElements read rest = .ok (cs, nested)
          ∧ conditions = c :: cs := by
  simp only [readElements, condition, Bool.false_eq_true, if_false, bind_eq_ok_iff, pure_eq_ok,
    Except.ok.injEq, Prod.exists, Prod.mk.injEq]
  constructor
  · intro h
    obtain ⟨c, hc, cs, ms, hrest, rfl, rfl⟩ := h
    exact ⟨c, cs, hc, hrest, rfl⟩
  · intro h
    obtain ⟨c, cs, hc, hrest, rfl⟩ := h
    exact ⟨c, hc, cs, nested, hrest, rfl, rfl⟩

end Elements

/-- A node needs a list of operands, so that the document of a condition is read as none. -/
theorem Matrix.ofJsonWithin_object_ne_ok {limit levels : Nat} {name : String}
    {members : List (String × Json)} {m : Matrix}
    : ofJsonWithin limit levels (.object [(name, .object members)]) ≠ .ok m := by
  cases levels with
  | zero => simp [ofJsonWithin]
  | succ levels => simp [ofJsonWithin, bind_eq_ok_iff, reject]

/-- The condition that the document of another one is read back as. -/
def Condition.ReadsBack (condition result : Condition) : Prop :=
  (∀ op : LogicalOperator, op.code ≠ condition.field)
  ∧ ∃ payload,
      condition.payload = .ok payload
      ∧ ofEntry condition.field condition.operator.code payload = .ok result

/-- A condition is read back with its field and its operator. -/
theorem Condition.ReadsBack.keeps {c c' : Condition} (h : c.ReadsBack c')
    : c'.field = c.field ∧ c'.operator = c.operator := by
  obtain ⟨_, _, _, read⟩ := h
  obtain ⟨hf, ho, _⟩ := ofEntry_code_eq_ok_iff.mp read
  exact ⟨hf, ho⟩

/-- The matrix that the document of another one is read back as; empty nodes lose their operator. -/
inductive Matrix.ReadsBack : Matrix → Matrix → Prop
  | empty (op : LogicalOperator) : ReadsBack (.node op [] []) .empty
  | node (op : LogicalOperator) {conditions conditions' : List Condition}
    {nested nested' : List Matrix} (parts : conditions ≠ [] ∨ nested ≠ [])
    (ofConditions : List.Forall₂ Condition.ReadsBack conditions conditions')
    (ofNested : List.Forall₂ ReadsBack nested nested')
    : ReadsBack (.node op conditions nested) (.node op conditions' nested')

/-- The document of a node with parts lists the documents of its parts. -/
theorem Matrix.toJsonWithin_node_eq_ok_iff {limit levels : Nat} {op : LogicalOperator}
    {conditions : List Condition} {nested : List Matrix} {json : Json}
    (parts : conditions ≠ [] ∨ nested ≠ [])
    : toJsonWithin limit (levels + 1) (.node op conditions nested) = .ok json
      ↔ ∃ ofConditions ofNested,
          List.Forall₂ (fun c j => Condition.toJson c = .ok j) conditions ofConditions
          ∧ List.Forall₂ (fun m j => toJsonWithin limit levels m = .ok j) nested ofNested
          ∧ .object [(op.code, .array (ofConditions ++ ofNested))] = json := by
  have notEmpty : (node op conditions nested).isEmpty = false := by
    simpa [isEmpty, Matrix.conditions, Matrix.nested, ← imp_iff_not_or] using parts
  simp only [toJsonWithin, notEmpty, Matrix.conditions, Matrix.nested, Matrix.operator,
    Bool.false_eq_true, if_false, bind_eq_ok_iff, mapM_eq_ok_iff, pure_eq_ok, Except.ok.injEq,
    exists_and_left]

/-- The document of a matrix is an element that is read as a node. -/
theorem Matrix.isNode_of_toJsonWithin {limit levels : Nat} {m : Matrix} {json : Json}
    (written : m.toJsonWithin limit levels = .ok json)
    : ∃ members, json = .object members ∧ isNode members = true := by
  obtain ⟨op, conditions, nested⟩ := m
  cases levels with
  | zero => cases written
  | succ levels =>
      by_cases parts : conditions ≠ [] ∨ nested ≠ []
      · obtain ⟨_, _, _, _, rfl⟩ := (toJsonWithin_node_eq_ok_iff parts).mp written
        exact ⟨_, rfl, isNode_singleton_iff.mpr ⟨op, rfl⟩⟩
      · obtain ⟨rfl, rfl⟩ : conditions = [] ∧ nested = [] := by simpa using parts
        cases written
        exact ⟨[], rfl, rfl⟩

section Written

variable {limit levels : Nat} {conditions conditions' : List Condition}
  {nested nested' : List Matrix} {rest : List Json}

/-- The document of a condition is read back as a condition unless it looks like a node. -/
theorem Matrix.readElements_cons_of_toJson {c : Condition} {json : Json}
    (written : c.toJson = .ok json)
    : readElements (ofJsonWithin limit levels) (json :: rest) = .ok (conditions', nested')
      ↔ ∃ c' cs',
          c.ReadsBack c'
          ∧ readElements (ofJsonWithin limit levels) rest = .ok (cs', nested')
          ∧ conditions' = c' :: cs' := by
  obtain ⟨payload, hp, same⟩ := bind_eq_ok_iff.mp written
  cases same
  cases node : isNode [(c.field, .object [(c.operator.code, payload)])] with
  | true =>
      -- A field that is named like a logical operator: the element is read as a node, in vain.
      rw [readElements_node_cons_eq_ok_iff node]
      obtain ⟨op, hop⟩ := isNode_singleton_iff.mp node
      constructor
      · intro ⟨m, _, hm, _⟩
        exact absurd hm ofJsonWithin_object_ne_ok
      · intro ⟨c', _, ⟨free, _⟩, _⟩
        exact absurd hop (free op)
  | false =>
      rw [readElements_condition_cons_eq_ok_iff node]
      have free (op : LogicalOperator) : op.code ≠ c.field := fun hop => by
        simp [isNode_singleton_iff.mpr ⟨op, hop⟩] at node
      simp [Condition.ReadsBack, hp, free, Condition.ofMembers]

/-- The documents of conditions and nested matrices are read back one by one, by induction on either
list.
-/
theorem Matrix.readElements_append_eq_ok_iff {ofConditions ofNested : List Json}
    (ih
      : ∀ m json,
          toJsonWithin limit levels m = .ok json →
          ∀ m', ofJsonWithin limit levels json = .ok m' ↔ m.ReadsBack m')
    (hc : List.Forall₂ (fun c j => Condition.toJson c = .ok j) conditions ofConditions)
    (hn : List.Forall₂ (fun m j => toJsonWithin limit levels m = .ok j) nested ofNested)
    : readElements (ofJsonWithin limit levels) (ofConditions ++ ofNested)
        = .ok (conditions', nested')
      ↔ List.Forall₂ Condition.ReadsBack conditions conditions'
        ∧ List.Forall₂ ReadsBack nested nested' := by
  -- The conditions stand in front, so that the nested matrices come up when none is left.
  induction hc generalizing conditions' with
  | nil =>
      induction hn generalizing nested' with
      | nil => simp [readElements, eq_comm]
      | @cons m json _ _ written _ rest_ih =>
          obtain ⟨members, rfl, node⟩ := isNode_of_toJsonWithin written
          rw [List.nil_append] at rest_ih ⊢
          simp only [readElements_node_cons_eq_ok_iff node, ih _ _ written, rest_ih,
            List.forall₂_cons_left_iff]
          constructor
          · intro h
            obtain ⟨m', ms', hm, ⟨hcs, hms⟩, rfl⟩ := h
            exact ⟨hcs, m', ms', hm, hms, rfl⟩
          · intro h
            obtain ⟨hcs, m', ms', hm, hms, rfl⟩ := h
            exact ⟨m', ms', hm, ⟨hcs, hms⟩, rfl⟩
  | cons written _ rest_ih =>
      rw [List.cons_append, readElements_cons_of_toJson written]
      simp only [rest_ih, List.forall₂_cons_left_iff]
      constructor
      · intro h
        obtain ⟨c', cs', hc, ⟨hcs, hms⟩, rfl⟩ := h
        exact ⟨⟨c', cs', hc, hcs, rfl⟩, hms⟩
      · intro h
        obtain ⟨⟨c', cs', hc, hcs, rfl⟩, hms⟩ := h
        exact ⟨c', cs', hc, ⟨hcs, hms⟩, rfl⟩

/-- Within the levels in which a matrix has been written, its document is read back as exactly the
matrices that it reads back as, by induction on the levels.
-/
theorem Matrix.ofJsonWithin_eq_ok_iff {m m' : Matrix} {json : Json}
    (written : m.toJsonWithin limit levels = .ok json)
    : ofJsonWithin limit levels json = .ok m' ↔ m.ReadsBack m' := by
  induction levels generalizing m m' json with
  | zero => cases written
  | succ levels ih =>
      obtain ⟨op, conditions, nested⟩ := m
      by_cases parts : conditions ≠ [] ∨ nested ≠ []
      · obtain ⟨ofConditions, ofNested, hc, hn, rfl⟩ :=
          (toJsonWithin_node_eq_ok_iff parts).mp written
        simp only [ofJsonWithin, LogicalOperator.resolve_code, ok_bind, bind_eq_ok_iff,
          Prod.exists, pure_eq_ok, Except.ok.injEq,
          readElements_append_eq_ok_iff (fun m json h m' => ih h) hc hn]
        constructor
        · intro h
          obtain ⟨cs', ms', ⟨hcs, hms⟩, rfl⟩ := h
          exact .node op parts hcs hms
        · intro h
          cases h with
          | empty => simp at parts
          | node _ _ hcs hms => exact ⟨_, _, ⟨hcs, hms⟩, rfl⟩
      · obtain ⟨rfl, rfl⟩ : conditions = [] ∧ nested = [] := by simpa using parts
        cases written
        constructor
        · intro h
          cases h
          exact .empty op
        · intro h
          cases h with
          | empty => rfl
          | node _ h => simp at h

/-- A document of a matrix is read back as exactly what the matrix reads back as. -/
theorem Matrix.ofJson_eq_ok_iff {m m' : Matrix} {json : Json}
    (written : m.toJson limit = .ok json)
    : ofJson json limit = .ok m' ↔ m.ReadsBack m' :=
  ofJsonWithin_eq_ok_iff written

/-- Every condition of a matrix that is written is written, by induction on the levels. -/
theorem Matrix.exists_toJson_of_toJsonWithin {m : Matrix} {json : Json}
    (written : m.toJsonWithin limit levels = .ok json)
    : ∀ n ∈ m.nodes, ∀ c ∈ n.conditions, ∃ json, c.toJson = .ok json := by
  induction levels generalizing m json with
  | zero => cases written
  | succ levels ih =>
      obtain ⟨op, conditions, nested⟩ := m
      rw [forall_nodes_node_iff]
      by_cases parts : conditions ≠ [] ∨ nested ≠ []
      · obtain ⟨_, _, hc, hn, _⟩ := (toJsonWithin_node_eq_ok_iff parts).mp written
        refine ⟨exists_forall₂_iff.mp ⟨_, hc⟩, fun m hm => ?_⟩
        obtain ⟨json, written⟩ := exists_forall₂_iff.mp ⟨_, hn⟩ m hm
        exact ih written
      · obtain ⟨rfl, rfl⟩ : conditions = [] ∧ nested = [] := by simpa using parts
        simp [Matrix.conditions]

end Written

/-- What is read back has as many levels as what was written, by induction on the tree. -/
theorem Matrix.ReadsBack.depth_eq {m m' : Matrix} (h : m.ReadsBack m') : m'.depth = m.depth := by
  induction m using Matrix.induction generalizing m' with
  | step op conditions nested ih =>
      cases h with
      | empty => rfl
      | @node _ _ _ _ nested' _ _ hn =>
          have each : nested'.map depth = nested.map depth :=
            map_eq_of_forall₂ hn fun m hm m' h => ih m hm h
          rw [depth, depth, maxDepth_eq_foldr, maxDepth_eq_foldr, each]

/-- A matrix can be read back when each of its conditions can, by induction on the tree. -/
theorem Matrix.exists_readsBack_iff {m : Matrix}
    : (∃ m', m.ReadsBack m') ↔ ∀ n ∈ m.nodes, ∀ c ∈ n.conditions, ∃ c', c.ReadsBack c' := by
  induction m using Matrix.induction with
  | step op conditions nested ih =>
      rw [forall_nodes_node_iff, Matrix.conditions, ← exists_forall₂_iff]
      have below
          : (∀ m ∈ nested, ∀ n ∈ m.nodes, ∀ c ∈ n.conditions, ∃ c', c.ReadsBack c')
            ↔ ∃ nested', List.Forall₂ ReadsBack nested nested' := by
        rw [exists_forall₂_iff]
        exact forall₂_congr fun m hm => (ih m hm).symm
      rw [below]
      constructor
      · intro ⟨m', h⟩
        cases h with
        | empty => exact ⟨⟨[], .nil⟩, ⟨[], .nil⟩⟩
        | node _ _ hc hn => exact ⟨⟨_, hc⟩, ⟨_, hn⟩⟩
      · intro ⟨⟨conditions', hc⟩, ⟨nested', hn⟩⟩
        by_cases parts : conditions ≠ [] ∨ nested ≠ []
        · exact ⟨_, .node op parts hc hn⟩
        · obtain ⟨rfl, rfl⟩ : conditions = [] ∧ nested = [] := by simpa using parts
          exact ⟨_, .empty op⟩

end RecordFilter
