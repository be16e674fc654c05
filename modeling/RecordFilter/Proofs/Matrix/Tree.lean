import RecordFilter.Matrix.Basic

/-! Matrices as trees: induction over the nested matrices, the nodes in the order of a walk from the
root, and the depth in terms of the nested matrices.
-/

namespace RecordFilter.Matrix

/-- A property of matrices holds of all when each matrix has it as soon as the matrices nested in
it have it.
-/
@[elab_as_elim]
theorem induction {motive : Matrix → Prop}
    (step
      : ∀ op conditions nested,
          (∀ m ∈ nested, motive m) → motive (node op conditions nested))
    (m : Matrix)
    : motive m :=
  @Matrix.rec motive (fun ms => ∀ m ∈ ms, motive m)
    step
    (by simp)
    (fun _ _ head tail => by simpa using ⟨head, tail⟩)
    m

theorem isEmpty_iff {m : Matrix} : m.isEmpty = true ↔ m.conditions = [] ∧ m.nested = [] := by
  simp [isEmpty]

mutual

/-- The nodes of the tree, each before the nodes below it. -/
def nodes : Matrix → List Matrix
  | node op conditions nested => node op conditions nested :: nodesOf nested

def nodesOf : List Matrix → List Matrix
  | [] => []
  | m :: rest => m.nodes ++ nodesOf rest

end

theorem nodesOf_eq_flatMap (ms : List Matrix) : nodesOf ms = ms.flatMap nodes := by
  induction ms with
  | nil => rfl
  | cons m rest ih => rw [nodesOf, ih, List.flatMap_cons]

theorem mem_nodesOf_iff {n : Matrix} {ms : List Matrix}
    : n ∈ nodesOf ms ↔ ∃ m ∈ ms, n ∈ m.nodes := by
  rw [nodesOf_eq_flatMap, List.mem_flatMap]

/-- A property holds at every node of a tree when it holds at the root and in the nested trees. -/
theorem forall_nodes_node_iff {P : Matrix → Prop} {op : LogicalOperator}
    {conditions : List Condition} {nested : List Matrix}
    : (∀ n ∈ (node op conditions nested).nodes, P n)
      ↔ P (node op conditions nested) ∧ ∀ m ∈ nested, ∀ n ∈ m.nodes, P n := by
  simp only [nodes, List.forall_mem_cons, mem_nodesOf_iff]
  refine and_congr_right fun _ => ⟨?_, ?_⟩
  · exact fun h m hm n hn => h n ⟨m, hm, hn⟩
  · intro h n ⟨m, hm, hn⟩
    exact h m hm n hn

/-- The conditions of all nodes, those of a node before those of the nodes below it. -/
def allConditions (m : Matrix) : List Condition :=
  m.nodes.flatMap conditions

theorem allConditions_node (op : LogicalOperator) (conditions : List Condition)
    (nested : List Matrix)
    : allConditions (node op conditions nested) = conditions ++ nested.flatMap allConditions := by
  rw [allConditions, nodes, List.flatMap_cons, nodesOf_eq_flatMap, List.flatMap_assoc]
  rfl

theorem maxDepth_eq_foldr (ms : List Matrix) : maxDepth ms = (ms.map depth).foldr max 0 := by
  induction ms with
  | nil => rfl
  | cons m rest ih => rw [maxDepth, ih, List.map_cons, List.foldr_cons]

theorem maxDepth_le_iff {ms : List Matrix} {levels : Nat}
    : maxDepth ms ≤ levels ↔ ∀ m ∈ ms, m.depth ≤ levels := by
  induction ms with
  | nil => simp [maxDepth]
  | cons m rest ih => rw [maxDepth, Nat.max_le, ih, List.forall_mem_cons]

/-- A tree fits into some levels when there is one for its root and the others take up its nested
trees.
-/
theorem depth_node_le_iff {op : LogicalOperator} {conditions : List Condition}
    {nested : List Matrix} {levels : Nat}
    : (node op conditions nested).depth ≤ levels
      ↔ 0 < levels ∧ ∀ m ∈ nested, m.depth + 1 ≤ levels := by
  cases levels with
  | zero => simp [depth]
  | succ levels =>
      have one : 1 + maxDepth nested ≤ levels + 1 ↔ maxDepth nested ≤ levels := by omega
      simp [depth, one, maxDepth_le_iff]

theorem depth_node_le_succ_iff {op : LogicalOperator} {conditions : List Condition}
    {nested : List Matrix} {levels : Nat}
    : (node op conditions nested).depth ≤ levels + 1 ↔ ∀ m ∈ nested, m.depth ≤ levels := by
  simp [depth_node_le_iff]

/-- A tree whose root has some level fits into a limit when the root does and its nested trees do on
the next level.
-/
theorem add_depth_node_le_iff {op : LogicalOperator} {conditions : List Condition}
    {nested : List Matrix} {level limit : Nat}
    : level + (node op conditions nested).depth ≤ limit
      ↔ level < limit ∧ ∀ m ∈ nested, level + 1 + m.depth ≤ limit := by
  have shifted (k : Nat) (positive : 0 < k) : level + k ≤ limit ↔ k ≤ limit - level := by omega
  rw [shifted _ (by simp only [depth]; omega), depth_node_le_iff]
  refine and_congr (by omega) (forall₂_congr fun m _ => ?_)
  omega

theorem not_depth_le_zero (m : Matrix) : ¬m.depth ≤ 0 := by
  obtain ⟨_, _, _⟩ := m
  simp [depth]

end RecordFilter.Matrix
