import RecordFilter.Proofs.Matrix.Elements

/-! The grammar of the documents of matrices, level by level. A document is read as a matrix exactly
when the grammar has it, and the matrix holds its conditions and its nodes in the order in which
they are written.
-/

namespace RecordFilter

namespace Json

/-- The payloads that go with an operator: the name of another field for an operator on two fields,
true for a check for null, and anything but an object for the others.
-/
inductive IsPayload (op : Operator) : Json → Prop
  | column {name : String} (compares : op.isColumn = true)
    (named : Text.isBlankText name = false)
    : IsPayload op (.array [.string name])
  | nullCheck (asks : op.isNullCheck = true) : IsPayload op (.bool true)
  | value {payload : Json} (tests : op.isColumn = false) (takes : op.isNullCheck = false)
    (plain : ∀ members, payload ≠ .object members)
    : IsPayload op payload

/-- The elements that are conditions. Their field has a name, which no logical operator has as its
code, and their operator is none of these.
-/
inductive IsCondition : Json → Prop
  | entry {field : String} {op : Operator} {payload : Json}
    (named : Text.isBlankText field = false)
    (free : ∀ logical : LogicalOperator, logical.code ≠ field) (tests : op.isLogical = false)
    (carries : IsPayload op payload)
    : IsCondition (.object [(field, .object [(op.code, payload)])])

/-- The documents of matrices at a level, where the root has level zero and every level lies below
the limit. An element with the key of a logical operator or without a key has to be a node, and
every other element a condition.
-/
inductive IsMatrixAt (limit : Nat) : Nat → Json → Prop
  | empty {level : Nat} (within : level < limit) : IsMatrixAt limit level (.object [])
  | node {level : Nat} {elements : List Json} (within : level < limit) (op : LogicalOperator)
    (nodes : ∀ element ∈ elements, element.isNode = true → IsMatrixAt limit (level + 1) element)
    (conditions : ∀ element ∈ elements, element.isNode = false → element.IsCondition)
    : IsMatrixAt limit level (.object [(op.code, .array elements)])

theorem mem_nodeElements_iff {element : Json} {elements : List Json}
    : element ∈ nodeElements elements ↔ element ∈ elements ∧ element.isNode = true := by
  simp [nodeElements]

theorem mem_conditionElements_iff {element : Json} {elements : List Json}
    : element ∈ conditionElements elements ↔ element ∈ elements ∧ element.isNode = false := by
  simp [conditionElements]

end Json

/-- A condition is read from every element that the grammar has, and from no other element. -/
theorem Condition.exists_readFrom_iff {element : Json}
    : (∃ c : Condition, c.ReadFrom element) ↔ element.IsCondition := by
  constructor
  · intro ⟨c, free, payload, same, reads⟩
    obtain ⟨named, tests, _⟩ := ConditionFault.of?_eq_none_iff.mp c.valid
    rw [same]
    refine .entry named free tests ?_
    generalize taken : c.operand = operand at reads
    cases reads with
    | column compares name => exact .column compares (c.isBlankText_column taken)
    | nullCheck asks => exact .nullCheck asks
    | value alone takes stands =>
        refine .value alone takes fun members same => ?_
        rw [same] at stands
        cases stands
  · intro grammar
    cases grammar with
    | @entry field op payload named free tests carries =>
        -- An operand that goes with the operator makes a valid condition of the parts.
        have exists_of_reads {operand : Operand} (reads : Operand.Reads op payload operand)
            (shape : op.isColumn = true ↔ ∃ name, operand = .column name)
            (filled : ∀ name, operand = .column name → Text.isBlankText name = false)
            : ∃ c : Condition, c.ReadFrom (.object [(field, .object [(op.code, payload)])]) :=
          ⟨⟨field, op, operand,
              ConditionFault.of?_eq_none_iff.mpr ⟨named, tests, shape, filled⟩⟩,
            free, payload, rfl, reads⟩
        cases carries with
        | @column name compares filled =>
            exact exists_of_reads (.column compares name) (by simp [compares]) (by simp [filled])
        | nullCheck asks =>
            have alone := Operator.isColumn_eq_false_of_isNullCheck asks
            exact exists_of_reads (.nullCheck asks) (by simp [alone]) (by simp)
        | value alone takes plain =>
            obtain ⟨operand, stands⟩ := Operand.exists_readsValue op plain
            exact exists_of_reads (.value alone takes stands) (by simp [alone, stands.ne_column])
              (by simp [stands.ne_column])

namespace Matrix

variable {limit levels level : Nat} {json : Json}

/-- A matrix of no more levels than are left is read from every document that the grammar has at the
level, and from no other document; by induction on the levels that are left.
-/
theorem exists_readFrom_iff (h : level + levels = limit)
    : (∃ m : Matrix, m.ReadFrom json ∧ m.depth ≤ levels) ↔ json.IsMatrixAt limit level := by
  induction levels generalizing level json with
  | zero =>
      constructor
      · intro ⟨m, _, fits⟩
        exact absurd fits m.not_depth_le_zero
      · intro grammar
        cases grammar <;> omega
  | succ levels ih =>
      have below (element : Json)
          : (∃ m : Matrix, m.ReadFrom element ∧ m.depth ≤ levels)
            ↔ element.IsMatrixAt limit (level + 1) :=
        ih (by omega)
      constructor
      · intro ⟨m, read, fits⟩
        cases read with
        | empty => exact .empty (by omega)
        | @node op conditions nested elements hc hn =>
            rw [depth_node_le_succ_iff] at fits
            have fitting
                : List.Forall₂ (fun m element => ReadFrom m element ∧ m.depth ≤ levels) nested
                    (Json.nodeElements elements) :=
              forall₂_imp_of_mem hn fun m member _ read => ⟨read, fits m member⟩
            refine .node (by omega) op (fun element member node => ?_)
              (fun element member condition => ?_)
            · exact (below element).mp <|
                exists_forall₂_right_iff.mp ⟨_, fitting⟩ element
                  (Json.mem_nodeElements_iff.mpr ⟨member, node⟩)
            · exact Condition.exists_readFrom_iff.mp <|
                exists_forall₂_right_iff.mp ⟨_, hc⟩ element
                  (Json.mem_conditionElements_iff.mpr ⟨member, condition⟩)
      · intro grammar
        cases grammar with
        | empty => exact ⟨.empty, .empty, by simp [Matrix.empty, depth, maxDepth]⟩
        | @node _ elements _ op nodes conditions =>
            obtain ⟨nested, hn⟩ :=
              exists_forall₂_right_iff.mpr fun element member =>
                have found := Json.mem_nodeElements_iff.mp member
                (below element).mpr (nodes element found.1 found.2)
            obtain ⟨tests, hc⟩ :=
              exists_forall₂_right_iff.mpr fun element member =>
                have found := Json.mem_conditionElements_iff.mp member
                Condition.exists_readFrom_iff.mpr (conditions element found.1 found.2)
            refine ⟨.node op tests nested, .node op hc (hn.imp fun _ _ both => both.1), ?_⟩
            rw [depth_node_le_succ_iff]
            intro m member
            obtain ⟨_, _, fits⟩ := exists_forall₂_iff.mp ⟨_, hn⟩ m member
            exact fits

/-- A document spells one matrix at most. -/
theorem ReadFrom.unique {m m' : Matrix} (h : m.ReadFrom json) (h' : m'.ReadFrom json)
    : m = m' := by
  -- Levels for both of them make the reader return either.
  have left := h.ofJsonWithin_eq 0 (max m.depth m'.depth)
  have right := h'.ofJsonWithin_eq 0 (max m.depth m'.depth)
  rw [if_pos (Nat.le_max_left _ _)] at left
  rw [if_pos (Nat.le_max_right _ _)] at right
  exact Except.ok.inj (left.symm.trans right)

/-- A document is read within a limit exactly when the grammar has it at level zero. The matrix is
the one that holds the conditions and the nodes of each list of elements in their order, under the
operator of the list, where an object without a key is the empty conjunction. Each condition has the
field, the operator and the operand that its element spells out.
-/
theorem ofJson_accepts_grammar (json : Json) (limit : Nat)
    : ((∃ m, ofJson json limit = .ok m) ↔ json.IsMatrixAt limit 0)
      ∧ ∀ m, ofJson json limit = .ok m ↔ json.IsMatrixAt limit 0 ∧ m.ReadFrom json := by
  have accepted : (∃ m, ofJson json limit = .ok m) ↔ json.IsMatrixAt limit 0 := by
    rw [← exists_readFrom_iff (Nat.zero_add limit)]
    exact exists_congr fun m => ofJsonWithin_eq_ok_iff_readFrom
  refine ⟨accepted, fun m => ?_⟩
  constructor
  · intro read
    exact ⟨accepted.mp ⟨m, read⟩, readFrom_of_ofJsonWithin read⟩
  · intro ⟨grammar, spelled⟩
    obtain ⟨m', read⟩ := accepted.mpr grammar
    rw [spelled.unique (readFrom_of_ofJsonWithin read)]
    exact read

-- Conditions and nodes may be mixed, and each kind keeps its own order.
example
    : let test := Json.object [("a", .object [("_ceq", .array [.string "b"])])]
      ofJson (.object [("_or", .array [.object [], test, .object [("_not", .array [])]])]) 2
      = .ok (.node .or [⟨"a", .columnEqual, .column "b", rfl⟩] [.empty, .node .not [] []]) :=
  rfl

end Matrix

end RecordFilter
