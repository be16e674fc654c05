import RecordFilter.Compiler
import RecordFilter.Proofs.Matrix.Elements

/-! What has been read from a document is written in one arrangement of it, with conditions in front
of nodes and nothing in empty nodes. Reading and writing it again change nothing any more, and the
operators that empty nodes lose on the way make no difference to a compiler.
-/

namespace RecordFilter

namespace Json

mutual

/-- The document of a matrix with the conditions of every list of elements in front of its nodes,
each in their order, and with the empty object for every node without elements.
-/
def arranged : Json → Json
  | .object [(_, .array [])] => .object []
  | .object [(code, .array elements)] =>
      .object [(code, .array (conditionElements elements ++ arrangedNodes elements))]
  | json => json

/-- The nodes among some elements, arranged one by one. -/
def arrangedNodes : List Json → List Json
  | [] => []
  | element :: rest =>
      if element.isNode then element.arranged :: arrangedNodes rest else arrangedNodes rest

end

theorem arrangedNodes_eq_map (elements : List Json)
    : arrangedNodes elements = (nodeElements elements).map arranged := by
  induction elements with
  | nil => rfl
  | cons element rest ih =>
      cases node : element.isNode with
      | true => simp [arrangedNodes, node, ih, nodeElements_cons_of_isNode node]
      | false => simp [arrangedNodes, node, ih, nodeElements_cons_of_not_isNode node]

/-- Every element is a condition or a node. -/
theorem eq_nil_of_parts {elements : List Json} (noConditions : conditionElements elements = [])
    (noNodes : nodeElements elements = [])
    : elements = [] := by
  cases elements with
  | nil => rfl
  | cons element rest =>
      cases node : element.isNode with
      | true => simp [nodeElements_cons_of_isNode node] at noNodes
      | false => simp [conditionElements_cons_of_not_isNode node] at noConditions

end Json

/-- An operand that a payload stands for is written as the payload. -/
theorem Operand.ReadsValue.writes {op : Operator} {payload : Json} {operand : Operand}
    (stands : ReadsValue op payload operand)
    : operand.Writes payload := by
  cases stands with
  | null => exact .null
  | bool _ | number _ | string => exact .single rfl
  | pattern _ text => exact .pattern text
  | array items =>
      exact .array (List.forall₂_map_left_iff.mpr (List.forall₂_same.mpr fun _ _ => rfl))

/-- An operand that a payload stands for is the payload again in the document of a condition. -/
theorem Condition.payload_of_reads {c : Condition} {payload : Json}
    (reads : Operand.Reads c.operator payload c.operand)
    : c.payload = .ok payload := by
  generalize same : c.operand = operand at reads
  cases reads with
  | column compares name => simp [Condition.payload, same]
  | nullCheck asks => exact payload_of_isNullCheck asks
  | value tests takes stands =>
      rw [payload_eq_ok_iff takes, same]
      exact stands.writes

/-- A condition is written as the element from which it is read. -/
theorem Condition.ReadFrom.toJson_eq {c : Condition} {element : Json} (h : c.ReadFrom element)
    : c.toJson = .ok element := by
  obtain ⟨_, payload, rfl, reads⟩ := h
  rw [toJson, payload_of_reads reads]
  rfl

/-- A condition that is read from an element is read back as itself. -/
theorem Condition.ReadFrom.readsBack {c : Condition} {element : Json} (h : c.ReadFrom element)
    : c.ReadsBack c := by
  obtain ⟨free, payload, _, reads⟩ := h
  exact ⟨free, payload, payload_of_reads reads, ofEntry_code_eq_ok_iff.mpr ⟨rfl, rfl, reads⟩⟩

namespace Matrix

mutual

/-- The matrix with every empty node in it made a conjunction. -/
def resetEmpty : Matrix → Matrix
  | node op conditions nested =>
      node (if (node op conditions nested).isEmpty then .and else op) conditions
        (resetEmptyAll nested)

def resetEmptyAll : List Matrix → List Matrix
  | [] => []
  | m :: rest => m.resetEmpty :: resetEmptyAll rest

end

theorem resetEmptyAll_eq_map (ms : List Matrix) : resetEmptyAll ms = ms.map resetEmpty := by
  induction ms with
  | nil => rfl
  | cons m rest ih => rw [resetEmptyAll, ih, List.map_cons]

variable {limit levels : Nat} {m : Matrix} {json : Json}

theorem conditions_resetEmpty (m : Matrix) : m.resetEmpty.conditions = m.conditions := by
  obtain ⟨_, _, _⟩ := m
  rfl

theorem nested_resetEmpty (m : Matrix) : m.resetEmpty.nested = m.nested.map resetEmpty := by
  obtain ⟨_, _, nested⟩ := m
  exact resetEmptyAll_eq_map nested

theorem isEmpty_resetEmpty (m : Matrix) : m.resetEmpty.isEmpty = m.isEmpty := by
  rw [isEmpty, isEmpty, conditions_resetEmpty, nested_resetEmpty, List.isEmpty_map]

theorem operator_resetEmpty (filled : m.isEmpty = false) : m.resetEmpty.operator = m.operator := by
  obtain ⟨op, _, _⟩ := m
  simp [resetEmpty, filled, operator]

/-- A node that is read from a list with elements has parts. -/
theorem parts_of_elements {conditions : List Condition} {nested : List Matrix} {element : Json}
    {rest : List Json}
    (hc
      : List.Forall₂ Condition.ReadFrom conditions (Json.conditionElements (element :: rest)))
    (hn : List.Forall₂ ReadFrom nested (Json.nodeElements (element :: rest)))
    : conditions ≠ [] ∨ nested ≠ [] := by
  by_contra none
  obtain ⟨rfl, rfl⟩ : conditions = [] ∧ nested = [] := by simpa using none
  rw [List.forall₂_nil_left_iff] at hc hn
  cases Json.eq_nil_of_parts hc hn

/-- A matrix that is read from a document is written as the arranged document within levels enough
for it, by induction on the tree.
-/
theorem ReadFrom.toJsonWithin_eq (h : m.ReadFrom json) (fits : m.depth ≤ levels)
    : m.toJsonWithin limit levels = .ok json.arranged := by
  induction m using Matrix.induction generalizing json levels with
  | step op conditions nested ih =>
      cases levels with
      | zero => exact absurd fits (not_depth_le_zero _)
      | succ levels =>
          rw [depth_node_le_succ_iff] at fits
          cases h with
          | empty => rfl
          | @node _ _ _ elements hc hn =>
              cases elements with
              | nil =>
                  cases hc
                  cases hn
                  rfl
              | cons element rest =>
                  rw [toJsonWithin_node_eq_ok_iff (parts_of_elements hc hn)]
                  refine ⟨Json.conditionElements (element :: rest),
                    Json.arrangedNodes (element :: rest), hc.imp fun c _ h => h.toJson_eq, ?_, rfl⟩
                  rw [Json.arrangedNodes_eq_map, List.forall₂_map_right_iff]
                  refine forall₂_imp_of_mem hn fun m member _ read => ?_
                  exact ih m member read (fits m member)

/-- A matrix that is read from a document is read back with its empty nodes reset, by induction on
the tree.
-/
theorem ReadFrom.readsBack (h : m.ReadFrom json) : m.ReadsBack m.resetEmpty := by
  induction m using Matrix.induction generalizing json with
  | step op conditions nested ih =>
      cases h with
      | empty => exact .empty .and
      | node _ hc hn =>
          rw [resetEmpty, resetEmptyAll_eq_map]
          by_cases vacant : (Matrix.node op conditions nested).isEmpty = true
          · obtain ⟨rfl, rfl⟩ := isEmpty_iff.mp vacant
            exact .empty op
          · rw [if_neg vacant]
            rw [isEmpty_iff, not_and_or] at vacant
            refine .node op vacant ?_ ?_
            · refine List.forall₂_same.mpr fun c member => ?_
              obtain ⟨element, read⟩ := exists_forall₂_iff.mp ⟨_, hc⟩ c member
              exact read.readsBack
            · refine List.forall₂_map_right_iff.mpr (List.forall₂_same.mpr fun m member => ?_)
              obtain ⟨element, read⟩ := exists_forall₂_iff.mp ⟨_, hn⟩ m member
              exact ih m member read

/-- Empty nodes are written without their operators, by induction on the levels. -/
theorem toJsonWithin_resetEmpty (limit levels : Nat) (m : Matrix)
    : m.resetEmpty.toJsonWithin limit levels = m.toJsonWithin limit levels := by
  induction levels generalizing m with
  | zero => rfl
  | succ levels ih =>
      have below : toJsonWithin limit levels ∘ resetEmpty = toJsonWithin limit levels := funext ih
      rw [toJsonWithin, toJsonWithin, isEmpty_resetEmpty]
      by_cases vacant : m.isEmpty = true
      · rw [if_pos vacant, if_pos vacant]
      · rw [if_neg vacant, if_neg vacant, conditions_resetEmpty, nested_resetEmpty, List.mapM_map,
          below, operator_resetEmpty (by simpa using vacant)]

end Matrix

/-- Empty nodes accept everything whatever their operators, by induction on the levels. -/
theorem Compiler.compileWithin_resetEmpty (compiler : Compiler) (fields : FieldIndex ρ)
    (levels : Nat) (m : Matrix)
    : compiler.compileWithin fields levels m.resetEmpty
      = compiler.compileWithin fields levels m := by
  induction levels generalizing m with
  | zero => rfl
  | succ levels ih =>
      have below
          : compiler.compileWithin fields levels ∘ Matrix.resetEmpty
            = compiler.compileWithin fields levels :=
        funext ih
      rw [compileWithin, compileWithin, Matrix.conditions_resetEmpty, Matrix.nested_resetEmpty,
        List.mapM_map, below]
      by_cases vacant : m.isEmpty = true
      · -- Nothing is combined, and then no operator is looked at.
        obtain ⟨noConditions, noNested⟩ := Matrix.isEmpty_iff.mp vacant
        rw [noConditions, noNested]
        rfl
      · rw [Matrix.operator_resetEmpty (by simpa using vacant)]

namespace Matrix

/-- A matrix that has been read from a document is written as the arranged document. This is read as
the matrix with its empty nodes reset, which is written as the same document again, and which
compiles to the same predicate or fails with the same error under all strategies, limits and fields.
-/
theorem toJson_of_ofJson_stable {json : Json} {limit : Nat} {m : Matrix}
    (read : ofJson json limit = .ok m)
    : m.toJson limit = .ok json.arranged
      ∧ ofJson json.arranged limit = .ok m.resetEmpty
      ∧ m.resetEmpty.toJson limit = .ok json.arranged
      ∧ ∀ (ρ : Type) (compiler : Compiler) (fields : FieldIndex ρ),
          compiler.compile fields m.resetEmpty = compiler.compile fields m := by
  obtain ⟨spelled, fits⟩ := ofJsonWithin_eq_ok_iff_readFrom.mp read
  have written : m.toJson limit = .ok json.arranged := spelled.toJsonWithin_eq fits
  refine ⟨written, (ofJson_eq_ok_iff written).mpr spelled.readsBack, ?_, ?_⟩
  · rw [← written]
    exact toJsonWithin_resetEmpty limit limit m
  · intro ρ compiler fields
    exact compiler.compileWithin_resetEmpty fields compiler.maxDepth m

/-- A negation of nothing and an object without a key around a condition. -/
theorem toJson_of_ofJson_stable_of_adults
    : let adult := Json.object [("age", .object [("_gt", .number "17")])]
      let vacuous := Json.object [("_not", .array [])]
      let document := Json.object [("_or", .array [vacuous, adult, .object []])]
      let arranged := Json.object [("_or", .array [adult, .object [], .object []])]
      let condition : Condition := ⟨"age", .greaterThan, .single (.json (.number "17")), by decide⟩
      let m := node .or [condition] [node .not [] [], empty]
      let m' := node .or [condition] [empty, empty]
      ofJson document 2 = .ok m
      ∧ m.toJson 2 = .ok arranged
      ∧ ofJson arranged 2 = .ok m'
      ∧ m'.toJson 2 = .ok arranged
      ∧ ∀ (ρ : Type) (compiler : Compiler) (fields : FieldIndex ρ),
          compiler.compile fields m' = compiler.compile fields m := by
  intro _ _ document _ _ m _
  have read : ofJson document 2 = .ok m := rfl
  exact ⟨read, toJson_of_ofJson_stable read⟩

end Matrix

end RecordFilter
