import RecordFilter.Proofs.Coercion.ReadBack
import RecordFilter.Proofs.Matrix.Selection

/-! Which matrices are written, and the error of those that are not. The nodes and the constants of
a matrix are listed in the order in which they are written; a matrix is written when none of them
fails, and otherwise the first one that does gives the error. Only nodes beyond the limit and
floating point numbers that are not finite fail.
-/

namespace RecordFilter

/-- What is written of a matrix, one after the other. -/
inductive WritingStep where
  /-- A node of this level, where the root has level zero. -/
  | node (level : Nat)
  /-- A constant in a condition. -/
  | constant (scalar : Scalar)

/-- The error of a step that fails. -/
def WritingStep.error? (limit : Nat) : WritingStep → Option Error
  | .node level => if limit ≤ level then some (.depthExceeded limit) else none
  | .constant (.float x) => if x.isFinite then none else some (.serialization (.notFinite x))
  | .constant _ => none

/-- The constants of a condition that are written. A check for null is written without its operand.
-/
def Condition.constants (condition : Condition) : List Scalar :=
  if condition.operator.isNullCheck then [] else condition.operand.scalars

/-- Every floating point number in the operand of the condition is finite, unless the operand is not
written.
-/
def Condition.HasFiniteFloats (condition : Condition) : Prop :=
  condition.operator.isNullCheck = false →
  ∀ x, Scalar.float x ∈ condition.operand.scalars → x.isFinite = true

mutual

/-- The steps for a matrix whose root has the given level: the node before the constants of its
conditions, and the nested matrices after them.
-/
def Matrix.writingSteps (level : Nat) : Matrix → List WritingStep
  | .node _ conditions nested =>
      .node level
      :: (conditions.flatMap Condition.constants).map .constant
      ++ writingStepsOf (level + 1) nested

def Matrix.writingStepsOf (level : Nat) : List Matrix → List WritingStep
  | [] => []
  | m :: rest => m.writingSteps level ++ writingStepsOf level rest

end

theorem Matrix.writingStepsOf_eq_flatMap (level : Nat) (ms : List Matrix)
    : writingStepsOf level ms = ms.flatMap (writingSteps level) := by
  induction ms with
  | nil => rfl
  | cons m rest ih => rw [writingStepsOf, ih, List.flatMap_cons]

theorem Scalar.errorOf?_toJson (limit : Nat) (scalar : Scalar)
    : errorOf? scalar.toJson = (WritingStep.constant scalar).error? limit := by
  cases scalar with
  | float x => cases x <;> rfl
  | bool _ | int _ | decimal _ | string _ | timestamp _ | uuid _ | json _ => rfl

/-- A condition fails with the error of its first constant that fails, by cases on its operand. -/
theorem Condition.errorOf?_toJson (limit : Nat) (c : Condition)
    : errorOf? c.toJson
      = c.constants.findSome? fun scalar => (WritingStep.constant scalar).error? limit := by
  rw [toJson, errorOf?_bind none fun _ _ => rfl, Option.or_none, constants]
  cases asks : c.operator.isNullCheck with
  | true =>
      rw [payload_of_isNullCheck asks]
      rfl
  | false =>
      simp only [payload, asks, Bool.false_eq_true, if_false]
      cases c.operand with
      | column _ | null | pattern _ => rfl
      | single scalar =>
          rw [Operand.scalars, List.findSome?_singleton, ← scalar.errorOf?_toJson]
      | array items =>
          simp only [Operand.scalars, ← Scalar.errorOf?_toJson]
          rw [errorOf?_bind none fun _ _ => rfl, Option.or_none, errorOf?_mapM]

theorem Scalar.error?_eq_none_iff {limit : Nat} {scalar : Scalar}
    : (WritingStep.constant scalar).error? limit = none
      ↔ ∀ x, scalar = .float x → x.isFinite = true := by
  cases scalar with
  | float x => simp [WritingStep.error?]
  | bool _ | int _ | decimal _ | string _ | timestamp _ | uuid _ | json _ =>
      simp [WritingStep.error?]

/-- No constant of a condition fails exactly when its floating point numbers are finite. -/
theorem Condition.forall_constants_iff {limit : Nat} {c : Condition}
    : (∀ scalar ∈ c.constants, (WritingStep.constant scalar).error? limit = none)
      ↔ c.HasFiniteFloats := by
  simp only [Scalar.error?_eq_none_iff, constants, HasFiniteFloats]
  cases c.operator.isNullCheck with
  | true => simp
  | false =>
      simp only [Bool.false_eq_true, if_false, forall_const]
      constructor
      · exact fun h x member => h _ member x rfl
      · rintro h _ member x rfl
        exact h x member

namespace Matrix

/-- A node fails with the error of its conditions before that of its nested matrices. An empty node
is no exception: it has neither.
-/
theorem errorOf?_toJsonWithin_succ (limit levels : Nat) (op : LogicalOperator)
    (conditions : List Condition) (nested : List Matrix)
    : errorOf? (toJsonWithin limit (levels + 1) (node op conditions nested))
      = (conditions.findSome? fun c => errorOf? c.toJson).or
          (nested.findSome? fun m => errorOf? (m.toJsonWithin limit levels)) := by
  rw [toJsonWithin]
  split
  next empty =>
    obtain ⟨noConditions, noNested⟩ := isEmpty_iff.mp empty
    simp only [Matrix.conditions, Matrix.nested] at noConditions noNested
    rw [noConditions, noNested]
    rfl
  next =>
    simp only [Matrix.conditions, Matrix.nested, ← errorOf?_mapM]
    apply errorOf?_bind
    intro _ _
    rw [errorOf?_bind none fun _ _ => rfl, Option.or_none]

/-- The walk ends with the error of the first failing step, by induction on the levels that are
left; the level of a node and the levels left to it add up to the limit.
-/
theorem errorOf?_toJsonWithin {limit levels level : Nat} (m : Matrix)
    (h : level + levels = limit)
    : errorOf? (m.toJsonWithin limit levels)
      = (m.writingSteps level).findSome? (WritingStep.error? limit) := by
  induction levels generalizing level m with
  | zero =>
      obtain ⟨op, conditions, nested⟩ := m
      have reached : limit ≤ level := by omega
      simp [toJsonWithin, writingSteps, WritingStep.error?, reached]
  | succ levels ih =>
      obtain ⟨op, conditions, nested⟩ := m
      -- A level is left, so that the root passes and its conditions come before what is nested.
      have within : (WritingStep.node level).error? limit = none :=
        if_neg (by omega : ¬limit ≤ level)
      have below
          : (fun m : Matrix => errorOf? (m.toJsonWithin limit levels))
            = fun m => (m.writingSteps (level + 1)).findSome? (WritingStep.error? limit) :=
        funext fun m => ih m (by omega)
      simp only [errorOf?_toJsonWithin_succ, below, Condition.errorOf?_toJson limit]
      rw [writingSteps, List.findSome?_append, List.findSome?_cons, within, List.findSome?_map,
        writingStepsOf_eq_flatMap, findSome?_flatMap, findSome?_flatMap]
      rfl

/-- No step fails exactly when the levels lie within the limit and all floating point numbers that
are written are finite; by induction on the tree.
-/
theorem writingSteps_pass_iff (limit level : Nat) (m : Matrix)
    : (∀ step ∈ m.writingSteps level, step.error? limit = none)
      ↔ level + m.depth ≤ limit ∧ ∀ n ∈ m.nodes, ∀ c ∈ n.conditions, c.HasFiniteFloats := by
  induction m using Matrix.induction generalizing level with
  | step op conditions nested ih =>
      have own
          : (∀ scalar ∈ conditions.flatMap Condition.constants,
              (WritingStep.constant scalar).error? limit = none)
            ↔ ∀ c ∈ conditions, c.HasFiniteFloats := by
        simp only [List.forall_mem_flatMap, Condition.forall_constants_iff]
      have below
          : (∀ step ∈ writingStepsOf (level + 1) nested, step.error? limit = none)
            ↔ ∀ m ∈ nested,
                level + 1 + m.depth ≤ limit
                ∧ ∀ n ∈ m.nodes, ∀ c ∈ n.conditions, c.HasFiniteFloats := by
        simp only [writingStepsOf_eq_flatMap, List.forall_mem_flatMap]
        exact forall₂_congr fun m member => ih m member (level + 1)
      have root : (WritingStep.node level).error? limit = none ↔ level < limit := by
        simp [WritingStep.error?]
      rw [add_depth_node_le_iff, forall_nodes_node_iff]
      simp only [writingSteps, List.cons_append, List.forall_mem_cons, List.forall_mem_append,
        List.forall_mem_map, own, below, root]
      constructor
      · intro ⟨within, finite, nested⟩
        exact ⟨⟨within, fun m hm => (nested m hm).1⟩, finite, fun m hm => (nested m hm).2⟩
      · intro ⟨⟨within, fits⟩, finite, nested⟩
        exact ⟨within, finite, fun m hm => ⟨fits m hm, nested m hm⟩⟩

theorem errorOf?_toJson (limit : Nat) (m : Matrix)
    : errorOf? (m.toJson limit) = (m.writingSteps 0).findSome? (WritingStep.error? limit) :=
  m.errorOf?_toJsonWithin (Nat.zero_add limit)

/-- A matrix is written exactly when its depth is within the limit and the floating point numbers in
its conditions are finite, checks for null aside; otherwise the error is that of the first step that
fails. Constants of all other kinds are written, a decimal number with a text that is read as a JSON
number of this text.
-/
theorem toJson_succeeds_or_first_error
    : (∀ (m : Matrix) (limit : Nat),
        ((∃ json, m.toJson limit = .ok json)
          ↔ m.depth ≤ limit ∧ ∀ n ∈ m.nodes, ∀ c ∈ n.conditions, c.HasFiniteFloats)
        ∧ ∀ e,
            m.toJson limit = .error e
            ↔ (m.writingSteps 0).findSome? (WritingStep.error? limit) = some e)
      ∧ (∀ scalar : Scalar,
          (∃ json, scalar.toJson = .ok json) ↔ ∀ x, scalar = .float x → x.isFinite = true)
      ∧ ∀ d : Decimal,
          (Scalar.decimal d).toJson = .ok (.number d.text)
          ∧ Json.parse d.text = .ok (.number d.text) := by
  refine
    ⟨fun m limit => ⟨?accepts, fun e => ?fails⟩, fun scalar => ?scalars, fun d => ⟨rfl, ?decimals⟩⟩
  case accepts =>
    rw [← errorOf?_eq_none_iff, errorOf?_toJson, List.findSome?_eq_none_iff, writingSteps_pass_iff,
      Nat.zero_add]
  case fails => rw [← errorOf?_eq_some_iff, errorOf?_toJson]
  case scalars =>
    rw [← errorOf?_eq_none_iff, Scalar.errorOf?_toJson 0, Scalar.error?_eq_none_iff]
  case decimals =>
    have text : (Json.number d.text).indentedText = d.text := String.ofList_toList
    have parsed := @Scalar.parse_of_toJson (.decimal d) (.number d.text) (by simp) rfl
    rwa [text] at parsed

/-- The number of the outer node is written before the inner node, which is too deep. -/
example
    : let c : Condition := ⟨"price", .equal, .single (.float .nan), by decide⟩
      (node .and [c] [node .and [] []]).toJson 1 = .error (.serialization (.notFinite .nan)) :=
  rfl

end Matrix

end RecordFilter
