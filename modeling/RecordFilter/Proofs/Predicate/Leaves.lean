import RecordFilter.Compiler

/-! The tests that a predicate is made of, and the nodes that combine them. A combination of parts
has the tests of its parts in their order, and nothing but the constant when there are no parts;
what joins parts joins more than one.
-/

namespace RecordFilter.Predicate

variable {ρ : Type}

mutual

/-- The tests of a predicate from left to right, where constants count as tests. -/
def leaves : Predicate ρ → List (Predicate ρ)
  | .and parts => leavesOf parts
  | .or parts => leavesOf parts
  | .not part => part.leaves
  | .constant holds => [.constant holds]
  | .value field test => [.value field test]
  | .column left right test => [.column left right test]
  | .isNull field => [.isNull field]

def leavesOf : List (Predicate ρ) → List (Predicate ρ)
  | [] => []
  | part :: rest => part.leaves ++ leavesOf rest

end

theorem leavesOf_eq_flatMap (parts : List (Predicate ρ))
    : leavesOf parts = parts.flatMap leaves := by
  induction parts with
  | nil => rfl
  | cons part rest ih => rw [leavesOf, ih, List.flatMap_cons]

mutual

/-- The tests are as many as are counted, by recursion on the predicate. -/
theorem length_leaves : (p : Predicate ρ) → p.leaves.length = p.leafCount
  | .and parts => length_leavesOf parts
  | .or parts => length_leavesOf parts
  | .not part => length_leaves part
  | .constant _ => rfl
  | .value _ _ => rfl
  | .column _ _ _ => rfl
  | .isNull _ => rfl

theorem length_leavesOf : (parts : List (Predicate ρ)) → (leavesOf parts).length = leafCounts parts
  | [] => rfl
  | part :: rest => by
      rw [leavesOf, List.length_append, length_leaves part, length_leavesOf rest, leafCounts]

end

/-- A combination has the tests of its parts, or the constant in their place. -/
theorem leaves_combine {op : LogicalOperator} {parts : List (Predicate ρ)} {p : Predicate ρ}
    (combined : combine op parts = .ok p)
    : p.leaves = if parts = [] then [.constant true] else parts.flatMap leaves := by
  -- The arms are those of the combination: no part, a single one and more than one.
  match op, parts with
  | .and, [] | .or, [] | .not, [] =>
      cases combined
      rfl
  | .and, [part] | .or, [part] | .not, [part] =>
      cases combined
      simp [leaves]
  | .and, first :: second :: rest | .or, first :: second :: rest =>
      cases combined
      rw [leaves, leavesOf_eq_flatMap, if_neg (List.cons_ne_nil _ _)]
  | .not, first :: second :: rest => cases combined

mutual

/-- The parts of a predicate on all levels, itself included, each before its own parts. -/
def nodes : Predicate ρ → List (Predicate ρ)
  | .and parts => .and parts :: nodesOf parts
  | .or parts => .or parts :: nodesOf parts
  | .not part => .not part :: part.nodes
  | .constant holds => [.constant holds]
  | .value field test => [.value field test]
  | .column left right test => [.column left right test]
  | .isNull field => [.isNull field]

def nodesOf : List (Predicate ρ) → List (Predicate ρ)
  | [] => []
  | part :: rest => part.nodes ++ nodesOf rest

end

theorem mem_nodesOf_iff {node : Predicate ρ} {parts : List (Predicate ρ)}
    : node ∈ nodesOf parts ↔ ∃ part ∈ parts, node ∈ part.nodes := by
  induction parts with
  | nil => simp [nodesOf]
  | cons part rest ih => simp [nodesOf, ih]

/-- A conjunction or a disjunction has at least two parts. -/
def Branches : Predicate ρ → Prop
  | .and parts => 2 ≤ parts.length
  | .or parts => 2 ≤ parts.length
  | _ => True

/-- Combining parts joins none of them alone. -/
theorem branches_combine {op : LogicalOperator} {parts : List (Predicate ρ)} {p : Predicate ρ}
    (combined : combine op parts = .ok p)
    (each : ∀ part ∈ parts, ∀ node ∈ part.nodes, node.Branches)
    : ∀ node ∈ p.nodes, node.Branches := by
  match op, parts with
  | .and, [] | .or, [] | .not, [] =>
      cases combined
      simp [nodes, Branches]
  | .and, [part] | .or, [part] =>
      cases combined
      exact each p (List.mem_singleton_self p)
  | .not, [part] =>
      cases combined
      rw [nodes, List.forall_mem_cons]
      exact ⟨trivial, each part (List.mem_singleton_self part)⟩
  | .and, first :: second :: rest | .or, first :: second :: rest =>
      cases combined
      rw [nodes, List.forall_mem_cons]
      refine ⟨by simp [Branches], ?_⟩
      intro node member
      obtain ⟨part, among, member⟩ := mem_nodesOf_iff.mp member
      exact each part among node member
  | .not, first :: second :: rest => cases combined

end RecordFilter.Predicate
