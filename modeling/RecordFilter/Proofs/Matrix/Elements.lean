import RecordFilter.Proofs.Matrix.ReadBack

/-! What documents are read as, apart from the levels that are left. The elements of a node are its
conditions and its nested nodes in one list, and each of the two lists of a matrix takes its own
elements in their order.
-/

namespace RecordFilter

/-- An operator is resolved from its code alone. -/
theorem Operator.resolve_eq_ok_iff {code : String} {op : Operator}
    : resolve code = .ok op ↔ op.code = code := by
  rw [← ofCode?_eq_some_iff, resolve]
  cases ofCode? code <;> simp

theorem LogicalOperator.ofOperator_eq_ok_iff {op : Operator} {logical : LogicalOperator}
    : ofOperator op = .ok logical ↔ logical.operator = op := by
  cases op <;> cases logical <;> simp [ofOperator, ofOperator?, operator]

theorem LogicalOperator.resolve_eq_ok_iff {code : String} {op : LogicalOperator}
    : resolve code = .ok op ↔ op.code = code := by
  rw [resolve, bind_eq_ok_iff]
  constructor
  · intro ⟨general, resolved, same⟩
    rw [ofOperator_eq_ok_iff] at same
    rw [LogicalOperator.code, same, Operator.resolve_eq_ok_iff.mp resolved]
  · intro same
    exact ⟨op.operator, Operator.resolve_eq_ok_iff.mpr same, ofOperator_eq_ok_iff.mpr rfl⟩

namespace Json

/-- A node is written without a key, or with the code of a logical operator as its only key. -/
def isNode : Json → Bool
  | .object [] => true
  | .object [(key, _)] => [LogicalOperator.and, .or, .not].any fun op => op.code == key
  | _ => false

/-- The elements of a list of operands that are nodes, in their order. -/
def nodeElements (elements : List Json) : List Json :=
  elements.filter (·.isNode)

/-- The elements of a list of operands that are not nodes, in their order. -/
def conditionElements (elements : List Json) : List Json :=
  elements.filter (!·.isNode)

theorem isNode_singleton_iff {key : String} {json : Json}
    : isNode (.object [(key, json)]) = true ↔ ∃ op : LogicalOperator, op.code = key := by
  simp only [isNode, List.any_cons, List.any_nil, Bool.or_false, Bool.or_eq_true, beq_iff_eq]
  constructor
  · intro h
    rcases h with h | h | h <;> exact ⟨_, h⟩
  · intro ⟨op, h⟩
    cases op <;> simp [h]

theorem isNode_object (members : List (String × Json))
    : isNode (.object members) = Matrix.isNode members := by
  match members with
  | [] => rfl
  | [(key, json)] =>
      rw [Bool.eq_iff_iff, isNode_singleton_iff, Matrix.isNode_singleton_iff]
  | _ :: _ :: _ => rfl

section Cons

variable {element : Json} {rest : List Json}

theorem nodeElements_cons_of_isNode (node : element.isNode = true)
    : nodeElements (element :: rest) = element :: nodeElements rest :=
  List.filter_cons_of_pos node

theorem nodeElements_cons_of_not_isNode (condition : element.isNode = false)
    : nodeElements (element :: rest) = nodeElements rest :=
  List.filter_cons_of_neg (by simp [condition])

theorem conditionElements_cons_of_isNode (node : element.isNode = true)
    : conditionElements (element :: rest) = conditionElements rest :=
  List.filter_cons_of_neg (by simp [node])

theorem conditionElements_cons_of_not_isNode (condition : element.isNode = false)
    : conditionElements (element :: rest) = element :: conditionElements rest :=
  List.filter_cons_of_pos (by simp [condition])

end Cons

end Json

/-- The element that a condition is read from. -/
def Condition.ReadFrom (condition : Condition) (element : Json) : Prop :=
  (∀ op : LogicalOperator, op.code ≠ condition.field)
  ∧ ∃ payload,
      element = .object [(condition.field, .object [(condition.operator.code, payload)])]
      ∧ Operand.Reads condition.operator payload condition.operand

/-- The document that a matrix is read from. -/
inductive Matrix.ReadFrom : Matrix → Json → Prop
  | empty : ReadFrom .empty (.object [])
  | node (op : LogicalOperator) {conditions : List Condition} {nested : List Matrix}
    {elements : List Json}
    (ofConditions : List.Forall₂ Condition.ReadFrom conditions (Json.conditionElements elements))
    (ofNested : List.Forall₂ ReadFrom nested (Json.nodeElements elements))
    : ReadFrom (.node op conditions nested) (.object [(op.code, .array elements)])

/-- An element that is no node is read as the condition that it spells out. -/
theorem Condition.ofMembers_eq_ok_iff {members : List (String × Json)} {c : Condition}
    (condition : Json.isNode (.object members) = false)
    : ofMembers members = .ok c ↔ c.ReadFrom (.object members) := by
  constructor
  · intro h
    unfold ofMembers at h
    split at h
    next field code payload =>
      obtain ⟨op, resolved, _⟩ := bind_eq_ok_iff.mp h
      rw [← Operator.resolve_eq_ok_iff.mp resolved] at h ⊢
      obtain ⟨rfl, rfl, reads⟩ := ofEntry_code_eq_ok_iff.mp h
      refine ⟨fun logical same => ?_, payload, rfl, reads⟩
      simp [Json.isNode_singleton_iff.mpr ⟨logical, same⟩] at condition
    all_goals cases h
  · intro ⟨_, payload, same, reads⟩
    cases same
    exact ofEntry_code_eq_ok_iff.mpr ⟨rfl, rfl, reads⟩

namespace Matrix

section Elements

variable {read : Json → Except Error Matrix} {elements : List Json}
  {conditions : List Condition} {nested : List Matrix}

/-- Elements that are read have been read one by one, each as what it is; by list induction. -/
theorem forall₂_of_readElements (h : readElements read elements = .ok (conditions, nested))
    : List.Forall₂ Condition.ReadFrom conditions (Json.conditionElements elements)
      ∧ List.Forall₂ (fun m element => read element = .ok m) nested
          (Json.nodeElements elements) := by
  induction elements generalizing conditions nested with
  | nil =>
      cases h
      exact ⟨.nil, .nil⟩
  | cons element rest ih =>
      cases element with
      | object members =>
          cases node : isNode members with
          | true =>
              obtain ⟨m, ms, hm, hrest, rfl⟩ := (readElements_node_cons_eq_ok_iff node).mp h
              rw [← Json.isNode_object] at node
              rw [Json.conditionElements_cons_of_isNode node,
                Json.nodeElements_cons_of_isNode node]
              exact ⟨(ih hrest).1, .cons hm (ih hrest).2⟩
          | false =>
              obtain ⟨c, cs, hc, hrest, rfl⟩ :=
                (readElements_condition_cons_eq_ok_iff node).mp h
              rw [← Json.isNode_object] at node
              rw [Json.conditionElements_cons_of_not_isNode node,
                Json.nodeElements_cons_of_not_isNode node]
              exact ⟨.cons ((Condition.ofMembers_eq_ok_iff node).mp hc) (ih hrest).1, (ih hrest).2⟩
      | null | bool _ | number _ | string _ | array _ => cases h

/-- Where the conditions among the elements can be read and every node gives its matrix or one and
the same error, the elements give their parts unless a node gives the error; by list induction.
-/
theorem readElements_eq_ite {fits : Matrix → Prop} [DecidablePred fits] {e : Error}
    (hc : List.Forall₂ Condition.ReadFrom conditions (Json.conditionElements elements))
    (hn
      : List.Forall₂ (fun m element => read element = if fits m then .ok m else .error e) nested
          (Json.nodeElements elements))
    : readElements read elements
      = if ∀ m ∈ nested, fits m then .ok (conditions, nested) else .error e := by
  induction elements generalizing conditions nested with
  | nil =>
      cases hc
      cases hn
      simp [readElements]
  | cons element rest ih =>
      cases node : element.isNode with
      | true =>
          rw [Json.conditionElements_cons_of_isNode node] at hc
          rw [Json.nodeElements_cons_of_isNode node] at hn
          cases hn with
          | @cons m _ ms _ head tail =>
              cases element with
              | object members =>
                  rw [Json.isNode_object] at node
                  rw [readElements, if_pos node, head, ih hc tail]
                  simp only [ite_bind, List.forall_mem_cons, ite_and]
                  rfl
              | null | bool _ | number _ | string _ | array _ => cases node
      | false =>
          rw [Json.conditionElements_cons_of_not_isNode node] at hc
          rw [Json.nodeElements_cons_of_not_isNode node] at hn
          cases hc with
          | @cons c _ cs _ head tail =>
              obtain ⟨_, _, rfl, _⟩ := id head
              have taken := (Condition.ofMembers_eq_ok_iff node).mpr head
              rw [Json.isNode_object] at node
              rw [readElements, if_neg (by simp [node]), taken, ih tail hn, ok_bind, ite_bind]
              rfl

end Elements

variable {limit levels : Nat} {m : Matrix} {json : Json}

/-- What is read within some levels is read from the document, by induction on the levels. -/
theorem readFrom_of_ofJsonWithin (h : ofJsonWithin limit levels json = .ok m)
    : m.ReadFrom json := by
  induction levels generalizing json m with
  | zero => cases h
  | succ levels ih =>
      unfold ofJsonWithin at h
      split at h
      next =>
        cases h
        exact .empty
      next code operands =>
        obtain ⟨op, resolved, h⟩ := bind_eq_ok_iff.mp h
        rw [← LogicalOperator.resolve_eq_ok_iff.mp resolved]
        cases operands with
        | array elements =>
            obtain ⟨⟨conditions, nested⟩, listed, same⟩ := bind_eq_ok_iff.mp h
            cases same
            obtain ⟨hc, hn⟩ := forall₂_of_readElements listed
            exact .node op hc (hn.imp fun m element read => ih read)
        | null | bool _ | number _ | string _ | object _ => cases h
      all_goals cases h

/-- A document of a matrix gives the matrix when the levels are enough for it, and fails for the
depth otherwise; by induction on the tree.
-/
theorem ReadFrom.ofJsonWithin_eq (h : m.ReadFrom json) (limit levels : Nat)
    : ofJsonWithin limit levels json
      = if m.depth ≤ levels then .ok m else .error (.depthExceeded limit) := by
  induction m using Matrix.induction generalizing json levels with
  | step op conditions nested ih =>
      cases levels with
      | zero => simp [ofJsonWithin, depth]
      | succ levels =>
          simp only [depth_node_le_succ_iff]
          cases h with
          | empty => simp [ofJsonWithin, Matrix.empty]
          | @node _ _ _ elements hc hn =>
              have each
                  : List.Forall₂
                      (fun m element =>
                        ofJsonWithin limit levels element
                        = if m.depth ≤ levels then .ok m else .error (.depthExceeded limit))
                      nested (Json.nodeElements elements) :=
                forall₂_imp_of_mem hn fun m member element read => ih m member read levels
              simp only [ofJsonWithin, LogicalOperator.resolve_code, ok_bind,
                readElements_eq_ite hc each, ite_bind]
              rfl

/-- Within some levels exactly those matrices are read from a document that have no more levels. -/
theorem ofJsonWithin_eq_ok_iff_readFrom
    : ofJsonWithin limit levels json = .ok m ↔ m.ReadFrom json ∧ m.depth ≤ levels := by
  constructor
  · intro h
    have read := readFrom_of_ofJsonWithin h
    refine ⟨read, ?_⟩
    rw [read.ofJsonWithin_eq] at h
    by_contra tooDeep
    rw [if_neg tooDeep] at h
    cases h
  · intro ⟨read, fits⟩
    rw [read.ofJsonWithin_eq, if_pos fits]

end Matrix

end RecordFilter
