import RecordFilter.Compiler
import RecordFilter.Proofs.Matrix.Tree
import RecordFilter.Proofs.Traversal

/-! Which matrices compile, and the error of those that do not. The checks of a compilation are
listed in the order of the walk; a matrix compiles when all of them pass, and otherwise the first
one that fails gives the error.
-/

namespace RecordFilter

/-- What is checked on the walk over a matrix. -/
inductive Check where
  /-- The level of a node, where the root has level zero, lies within the limit. -/
  | depth (level : Nat)
  /-- The condition compiles by itself. -/
  | condition (tested : Condition)
  /-- An operator can combine so many parts. -/
  | operands (op : LogicalOperator) (count : Nat)

/-- The error of a check that fails. -/
def Check.error? (compiler : Compiler) (fields : FieldIndex ρ) : Check → Option Error
  | .depth level =>
      if compiler.maxDepth ≤ level then some (.depthExceeded compiler.maxDepth) else none
  | .condition tested => errorOf? (compiler.compileCondition fields tested)
  | .operands op count =>
      if op = .not ∧ 1 < count then
        some (.invalidCondition (.operandCount op count))
      else
        none

mutual

/-- The checks of a matrix whose root has the given level: the level before all else, then the
conditions and the nested matrices in their order, and the number of parts at the end.
-/
def Matrix.checks (level : Nat) : Matrix → List Check
  | .node op conditions nested =>
      .depth level
      :: conditions.map .condition
      ++ checksOf (level + 1) nested
      ++ [.operands op (conditions.length + nested.length)]

def Matrix.checksOf (level : Nat) : List Matrix → List Check
  | [] => []
  | m :: rest => m.checks level ++ checksOf level rest

end

theorem Matrix.checksOf_eq_flatMap (level : Nat) (ms : List Matrix)
    : checksOf level ms = ms.flatMap (checks level) := by
  induction ms with
  | nil => rfl
  | cons m rest ih => simp [checksOf, ih]

/-- The first failing check of several trees is that of the first tree with one. -/
theorem Matrix.findSome?_checksOf (f : Check → Option Error) (level : Nat) (ms : List Matrix)
    : (checksOf level ms).findSome? f = ms.findSome? fun m => (m.checks level).findSome? f := by
  rw [checksOf_eq_flatMap, findSome?_flatMap]

namespace Compiler

variable {ρ : Type}

/-- A node with a level of its own compiles to the combination of its parts. -/
theorem compileWithin_succ_eq_ok_iff {compiler : Compiler} {fields : FieldIndex ρ} {levels : Nat}
    {op : LogicalOperator} {conditions : List Condition} {nested : List Matrix} {p : Predicate ρ}
    : compiler.compileWithin fields (levels + 1) (.node op conditions nested) = .ok p
      ↔ ∃ parts subtrees,
          List.Forall₂ (fun c part => compiler.compileCondition fields c = .ok part)
            conditions parts
          ∧ List.Forall₂ (fun m part => compiler.compileWithin fields levels m = .ok part)
              nested subtrees
          ∧ Predicate.combine op (parts ++ subtrees) = .ok p := by
  simp only [compileWithin, Matrix.conditions, Matrix.nested, Matrix.operator, bind_eq_ok_iff,
    mapM_eq_ok_iff, exists_and_left]

/-- A property of matrices and their predicates holds of all that compile when it passes from the
nested matrices of a node to the node.
-/
@[elab_as_elim]
theorem compileWithin_induction {compiler : Compiler} {fields : FieldIndex ρ}
    {motive : Matrix → Predicate ρ → Prop}
    (node
      : ∀ op conditions nested parts subtrees p,
          List.Forall₂ (fun c part => compiler.compileCondition fields c = .ok part)
            conditions parts →
          List.Forall₂ motive nested subtrees →
          Predicate.combine op (parts ++ subtrees) = .ok p →
          motive (.node op conditions nested) p)
    {levels : Nat} {m : Matrix} {p : Predicate ρ}
    (compiled : compiler.compileWithin fields levels m = .ok p)
    : motive m p := by
  induction levels generalizing m p with
  | zero => cases compiled
  | succ levels ih =>
      obtain ⟨op, conditions, nested⟩ := m
      obtain ⟨parts, subtrees, hc, hn, combined⟩ := compileWithin_succ_eq_ok_iff.mp compiled
      exact node op conditions nested parts subtrees p hc (hn.imp fun m part h => ih h) combined

/-- Combining parts fails exactly when the check of their number does. -/
theorem errorOf?_combine (compiler : Compiler) (fields : FieldIndex ρ) (op : LogicalOperator)
    (parts : List (Predicate ρ))
    : errorOf? (Predicate.combine op parts)
      = (Check.operands op parts.length).error? compiler fields := by
  cases op <;> rcases parts with _ | ⟨first, _ | ⟨second, rest⟩⟩ <;>
    simp [Predicate.combine, Check.error?]

/-- The walk ends with the error of the first failing check, by induction on the levels that are
left; the level of a node and the levels left to it add up to the limit.
-/
theorem errorOf?_compileWithin (compiler : Compiler) (fields : FieldIndex ρ) (levels level : Nat)
    (m : Matrix) (h : level + levels = compiler.maxDepth)
    : errorOf? (compiler.compileWithin fields levels m)
      = (m.checks level).findSome? (Check.error? compiler fields) := by
  induction levels generalizing level m with
  | zero =>
      cases m with
      | node op conditions nested =>
          have reached : compiler.maxDepth ≤ level := by omega
          simp [compileWithin, Matrix.checks, Check.error?, reached]
  | succ levels ih =>
      cases m with
      | node op conditions nested =>
          have within : ¬compiler.maxDepth ≤ level := by omega
          have below : (fun m => errorOf? (compiler.compileWithin fields levels m))
              = fun m => (m.checks (level + 1)).findSome? (Check.error? compiler fields) :=
            funext fun m => ih (level + 1) m (by omega)
          rw [compileWithin, errorOf?_bind <|
            ((Matrix.checksOf (level + 1) nested).findSome? (Check.error? compiler fields)).or
              ((Check.operands op (conditions.length + nested.length)).error? compiler fields)]
          · -- The level passes, so that the conditions come first.
            rw [errorOf?_mapM, Matrix.checks, List.findSome?_append, List.findSome?_append,
              List.findSome?_cons, List.findSome?_map, List.findSome?_singleton, Option.or_assoc]
            simp only [Check.error?, if_neg within]
            rfl
          · intro built hc
            rw [errorOf?_bind <|
              (Check.operands op (conditions.length + nested.length)).error? compiler fields]
            · rw [errorOf?_mapM, below, Matrix.findSome?_checksOf]
              rfl
            · -- Each part has left a predicate, and the operator counts these.
              intro subtrees hn
              have hlc := (mapM_eq_ok_iff.mp hc).length_eq
              have hln := (mapM_eq_ok_iff.mp hn).length_eq
              simp only [Matrix.conditions, Matrix.nested] at hlc hln
              rw [errorOf?_combine compiler fields, List.length_append, ← hlc, ← hln]
              rfl

/-- All checks of a matrix pass exactly when its levels lie within the limit, no negation has more
than one part and every condition compiles by itself; by induction on the tree.
-/
theorem checks_pass_iff (compiler : Compiler) (fields : FieldIndex ρ) (level : Nat) (m : Matrix)
    : (∀ check ∈ m.checks level, check.error? compiler fields = none)
      ↔ level + m.depth ≤ compiler.maxDepth
        ∧ (∀ n ∈ m.nodes, n.operator = .not → n.conditions.length + n.nested.length ≤ 1)
        ∧ ∀ n ∈ m.nodes,
            ∀ c ∈ n.conditions, ∃ part, compiler.compileCondition fields c = .ok part := by
  induction m using Matrix.induction generalizing level with
  | step op conditions nested ih =>
      have below
          : (∀ check ∈ Matrix.checksOf (level + 1) nested, check.error? compiler fields = none)
            ↔ ∀ m ∈ nested,
                level + 1 + m.depth ≤ compiler.maxDepth
                ∧ (∀ n ∈ m.nodes,
                    n.operator = .not → n.conditions.length + n.nested.length ≤ 1)
                ∧ ∀ n ∈ m.nodes,
                    ∀ c ∈ n.conditions,
                      ∃ part, compiler.compileCondition fields c = .ok part := by
        rw [Matrix.checksOf_eq_flatMap]
        simp only [List.mem_flatMap, forall_exists_index, and_imp]
        exact ⟨fun h m hm => (ih m hm (level + 1)).mp fun check hc => h check m hm hc,
          fun h check m hm hc => (ih m hm (level + 1)).mpr (h m hm) check hc⟩
      rw [Matrix.add_depth_node_le_iff, Matrix.forall_nodes_node_iff, Matrix.forall_nodes_node_iff]
      simp only [Matrix.checks, List.cons_append, List.forall_mem_cons, List.forall_mem_append,
        List.forall_mem_map, below, List.not_mem_nil, false_implies, implies_true, and_true]
      simp only [Check.error?, errorOf?_eq_none_iff, Matrix.operator, Matrix.conditions,
        Matrix.nested, ite_eq_right_iff, reduceCtorEq, imp_false, Nat.not_le, Nat.not_lt, not_and]
      constructor
      · intro h
        obtain ⟨hl, ⟨hc, hn⟩, ho⟩ := h
        exact ⟨⟨hl, fun m hm => (hn m hm).1⟩,
          ⟨ho, fun m hm => (hn m hm).2.1⟩,
          ⟨hc, fun m hm => (hn m hm).2.2⟩⟩
      · intro h
        obtain ⟨⟨hl, hd⟩, ⟨ho, hs⟩, ⟨hc, hn⟩⟩ := h
        exact ⟨hl, ⟨hc, fun m hm => ⟨hd m hm, hs m hm, hn m hm⟩⟩, ho⟩

/-- A compilation ends with the error of the first check that fails. -/
theorem errorOf?_compile (compiler : Compiler) (fields : FieldIndex ρ) (m : Matrix)
    : errorOf? (compiler.compile fields m)
      = (m.checks 0).findSome? (Check.error? compiler fields) :=
  compiler.errorOf?_compileWithin fields compiler.maxDepth 0 m (Nat.zero_add _)

theorem compile_isOk_iff (compiler : Compiler) (fields : FieldIndex ρ) (m : Matrix)
    : (∃ p, compiler.compile fields m = .ok p)
      ↔ m.depth ≤ compiler.maxDepth
        ∧ (∀ n ∈ m.nodes, n.operator = .not → n.conditions.length + n.nested.length ≤ 1)
        ∧ ∀ n ∈ m.nodes,
            ∀ c ∈ n.conditions, ∃ part, compiler.compileCondition fields c = .ok part := by
  rw [← errorOf?_eq_none_iff, errorOf?_compile, List.findSome?_eq_none_iff, checks_pass_iff,
    Nat.zero_add]

/-- A matrix compiles exactly when its depth is within the limit, no negation has more than one
part and every condition compiles by itself; otherwise the error is that of the first check that
fails on the walk.
-/
theorem compile_accepts_and_first_error (compiler : Compiler) (fields : FieldIndex ρ) (m : Matrix)
    : ((∃ p, compiler.compile fields m = .ok p)
        ↔ m.depth ≤ compiler.maxDepth
          ∧ (∀ n ∈ m.nodes, n.operator = .not → n.conditions.length + n.nested.length ≤ 1)
          ∧ ∀ n ∈ m.nodes,
              ∀ c ∈ n.conditions, ∃ part, compiler.compileCondition fields c = .ok part)
      ∧ ∀ e,
          compiler.compile fields m = .error e
          ↔ (m.checks 0).findSome? (Check.error? compiler fields) = some e := by
  refine ⟨compiler.compile_isOk_iff fields m, fun e => ?_⟩
  rw [← errorOf?_eq_some_iff, errorOf?_compile]

end Compiler

end RecordFilter
