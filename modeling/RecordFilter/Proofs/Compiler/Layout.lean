import RecordFilter.Proofs.Compiler.Conditions
import RecordFilter.Proofs.Matrix.DepthLimit
import RecordFilter.Proofs.Predicate.Leaves

/-! The layout of compiled predicates. Each condition of a matrix and each empty matrix has a place
in the order of the walk, and the tests of the predicate stand in these places, one in each. Nodes
with a single part leave no trace.
-/

namespace RecordFilter

/-- What a test stands for. -/
inductive Place where
  | condition (tested : Condition)
  /-- A matrix without conditions and nested matrices. -/
  | empty

/-- The test that belongs in a place: for a condition the one that its strategy builds of its own
fields and its own operand, and the constant for an empty matrix.
-/
inductive Place.FilledBy (compiler : Compiler) (fields : FieldIndex ρ)
    : Place → Predicate ρ → Prop
  | value {tested : Condition} {field : Accessor ρ} {strategy : ValueStrategy} {constant : Value}
    {test : ValueTest} (found : fields.get? tested.field = some field)
    (served : compiler.strategies.valueFor tested.operator = .ok strategy)
    (taken : tested.operand.coerce (strategy.operandType field.field) = .ok constant)
    (built : strategy.build tested.operator field.field constant = .ok test)
    : FilledBy compiler fields (.condition tested) (.value field test)
  | column {tested : Condition} {other : String} {left right : Accessor ρ}
    {strategy : ColumnStrategy} {test : ColumnTest}
    (found : fields.get? tested.field = some left) (named : tested.operand = .column other)
    (foundOther : fields.get? other = some right)
    (served : compiler.strategies.columnFor tested.operator = .ok strategy)
    (built : strategy.build tested.operator left.field right.field = .ok test)
    : FilledBy compiler fields (.condition tested) (.column left right test)
  | isNull {tested : Condition} {field : Accessor ρ}
    (found : fields.get? tested.field = some field) (asked : tested.operator = .isNull)
    : FilledBy compiler fields (.condition tested) (.isNull field)
  | empty : FilledBy compiler fields .empty (.constant true)

mutual

/-- The places of a matrix: those of its conditions come before those of its nested matrices, and an
empty matrix is a place itself.
-/
def Matrix.places : Matrix → List Place
  | .node op conditions nested =>
      if (node op conditions nested).isEmpty then
        [.empty]
      else
        conditions.map .condition ++ placesOf nested

def Matrix.placesOf : List Matrix → List Place
  | [] => []
  | m :: rest => m.places ++ placesOf rest

end

/-- The matrix inside of nodes with a single part, the first of which is the outermost. -/
def Matrix.wrapped (ops : List LogicalOperator) (m : Matrix) : Matrix :=
  ops.foldr (fun op inner => .node op [] [inner]) m

namespace Matrix

variable {op : LogicalOperator} {conditions : List Condition} {nested : List Matrix}

theorem placesOf_eq_flatMap (ms : List Matrix) : placesOf ms = ms.flatMap places := by
  induction ms with
  | nil => rfl
  | cons m rest ih => rw [placesOf, ih, List.flatMap_cons]

theorem isEmpty_node_iff
    : (node op conditions nested).isEmpty = true ↔ conditions = [] ∧ nested = [] :=
  isEmpty_iff

theorem places_node_of_filled (filled : ¬(node op conditions nested).isEmpty = true)
    : (node op conditions nested).places
      = conditions.map .condition ++ nested.flatMap places := by
  rw [places, if_neg filled, placesOf_eq_flatMap]

/-- The empty nodes of a tree. -/
def emptyNodes (m : Matrix) : List Matrix :=
  m.nodes.filter (·.isEmpty)

theorem emptyNodes_node_of_filled (filled : ¬(node op conditions nested).isEmpty = true)
    : (node op conditions nested).emptyNodes = nested.flatMap emptyNodes := by
  rw [emptyNodes, nodes, List.filter_cons_of_neg filled, nodesOf_eq_flatMap, List.filter_flatMap]
  rfl

/-- Lengths that add up item by item add up for all items, by list induction. -/
theorem length_flatMap_add {α β γ δ : Type} {whole : α → List β} {left : α → List γ}
    {right : α → List δ} {items : List α}
    (each : ∀ item ∈ items, (whole item).length = (left item).length + (right item).length)
    : (items.flatMap whole).length
      = (items.flatMap left).length + (items.flatMap right).length := by
  induction items with
  | nil => rfl
  | cons item rest ih =>
      rw [List.forall_mem_cons] at each
      obtain ⟨head, tail⟩ := each
      have rest := ih tail
      simp only [List.flatMap_cons, List.length_append]
      omega

/-- There are as many places as conditions and empty nodes, by induction on the tree. -/
theorem length_places (m : Matrix)
    : m.places.length = m.allConditions.length + m.emptyNodes.length := by
  induction m using Matrix.induction with
  | step op conditions nested ih =>
      by_cases empty : (node op conditions nested).isEmpty = true
      · obtain ⟨rfl, rfl⟩ := isEmpty_node_iff.mp empty
        rfl
      · have below := length_flatMap_add ih
        rw [places_node_of_filled empty, allConditions_node, emptyNodes_node_of_filled empty]
        simp only [List.length_append, List.length_map, below]
        omega

end Matrix

section Tests

variable {ρ : Type} {compiler : Compiler} {fields : FieldIndex ρ} {p : Predicate ρ}

/-- Strategies for constants serve neither operators on two fields nor the null check. -/
theorem StrategyRegistry.kinds_of_valueFor {registry : StrategyRegistry} {op : Operator}
    {strategy : ValueStrategy} (served : registry.valueFor op = .ok strategy)
    : op.isColumn = false ∧ op ≠ .isNull := by
  have takesConstant := (valueFor_eq_ok_iff.mp served).1
  revert takesConstant
  cases op <;> decide

theorem StrategyRegistry.isColumn_of_columnFor {registry : StrategyRegistry} {op : Operator}
    {strategy : ColumnStrategy} (served : registry.columnFor op = .ok strategy)
    : op.isColumn = true :=
  (columnFor_eq_ok_iff.mp served).1

/-- A place leaves no choice of its test: the kind of the operator decides between the rules, and
the lookups have one outcome each.
-/
theorem Place.FilledBy.unique {place : Place} {p' : Predicate ρ}
    (filled : place.FilledBy compiler fields p) (again : place.FilledBy compiler fields p')
    : p = p' := by
  cases filled with
  | value found served taken built =>
      have kinds := StrategyRegistry.kinds_of_valueFor served
      cases again with
      | value found' served' taken' built' =>
          cases found.symm.trans found'
          cases served.symm.trans served'
          cases taken.symm.trans taken'
          cases built.symm.trans built'
          rfl
      | column _ _ _ served' => simp [StrategyRegistry.isColumn_of_columnFor served'] at kinds
      | isNull _ asked => exact absurd asked kinds.2
  | column found named foundOther served built =>
      have comparesFields := StrategyRegistry.isColumn_of_columnFor served
      cases again with
      | value _ served' => simp [StrategyRegistry.kinds_of_valueFor served'] at comparesFields
      | column found' named' foundOther' served' built' =>
          cases found.symm.trans found'
          cases named.symm.trans named'
          cases foundOther.symm.trans foundOther'
          cases served.symm.trans served'
          cases built.symm.trans built'
          rfl
      | isNull _ asked => simp [asked, Operator.isColumn, Operator.kind] at comparesFields
  | isNull found asked =>
      cases again with
      | value _ served => exact absurd asked (StrategyRegistry.kinds_of_valueFor served).2
      | column _ _ _ served =>
          have comparesFields := StrategyRegistry.isColumn_of_columnFor served
          simp [asked, Operator.isColumn, Operator.kind] at comparesFields
      | isNull found' =>
          cases found.symm.trans found'
          rfl
  | empty =>
      cases again
      rfl

/-- What belongs in a place is a single test. -/
theorem Place.FilledBy.leaves_eq {place : Place} (filled : place.FilledBy compiler fields p)
    : p.leaves = [p] := by
  cases filled <;> rfl

/-- A condition compiles to the test that belongs in its place. -/
theorem Compiler.filledBy_of_compileCondition {tested : Condition}
    (compiled : compiler.compileCondition fields tested = .ok p)
    : (Place.condition tested).FilledBy compiler fields p := by
  obtain ⟨field, found, compiled⟩ := bind_eq_ok_iff.mp compiled
  have found := FieldIndex.get_eq_ok_iff.mp found
  split at compiled
  · obtain ⟨other, right, strategy, test, named, _, foundOther, served, built, rfl⟩ :=
      columnPredicate_eq_ok_iff.mp compiled
    exact .column found named foundOther served built
  · split at compiled
    next asked =>
      cases compiled
      exact .isNull found (Operator.eq_isNull_of_isNullCheck asked)
    next =>
      obtain ⟨strategy, constant, test, served, _, taken, built, rfl⟩ :=
        valuePredicate_eq_ok_iff.mp compiled
      exact .value found served taken built

/-- The tests of a compiled matrix stand in its places, by induction on the compilation. -/
theorem Compiler.filledBy_of_compileWithin {levels : Nat} {m : Matrix}
    (compiled : compiler.compileWithin fields levels m = .ok p)
    : List.Forall₂ (Place.FilledBy compiler fields) m.places p.leaves := by
  refine compileWithin_induction ?_ compiled
  intro op conditions nested parts subtrees p hc hn combined
  rw [Predicate.leaves_combine combined]
  by_cases empty : (Matrix.node op conditions nested).isEmpty = true
  · -- Without conditions and nested matrices there are no parts, and the constant stands alone.
    obtain ⟨rfl, rfl⟩ := Matrix.isEmpty_node_iff.mp empty
    cases hc
    cases hn
    exact .cons .empty .nil
  · have parted : parts ++ subtrees ≠ [] := by
      intro none
      obtain ⟨rfl, rfl⟩ := List.append_eq_nil_iff.mp none
      cases hc
      cases hn
      exact empty rfl
    have ofConditions
        : List.Forall₂ (Place.FilledBy compiler fields) (conditions.map .condition)
            (parts.flatMap Predicate.leaves) := by
      rw [← List.flatMap_pure_eq_map]
      apply List.rel_flatMap hc
      intro tested part compiled
      have filled := filledBy_of_compileCondition compiled
      rw [filled.leaves_eq]
      exact .cons filled .nil
    rw [Matrix.places_node_of_filled empty, if_neg parted, List.flatMap_append]
    apply List.rel_append ofConditions
    exact List.rel_flatMap hn fun m subtree below => below

/-- Each conjunction and disjunction of a compiled matrix has at least two parts, by induction on
the compilation.
-/
theorem Compiler.branches_of_compileWithin {levels : Nat} {m : Matrix}
    (compiled : compiler.compileWithin fields levels m = .ok p)
    : ∀ node ∈ p.nodes, node.Branches := by
  refine compileWithin_induction ?_ compiled
  intro op conditions nested parts subtrees p hc hn combined
  apply Predicate.branches_combine combined
  have ofConditions : ∀ part ∈ parts, ∀ node ∈ part.nodes, node.Branches := by
    refine forall_of_forall₂ hc ?_
    intro tested _ part compiled
    cases filledBy_of_compileCondition compiled <;> simp [Predicate.nodes, Predicate.Branches]
  have ofNested : ∀ part ∈ subtrees, ∀ node ∈ part.nodes, node.Branches :=
    forall_of_forall₂ hn fun _ _ _ below => below
  exact List.forall_mem_append.mpr ⟨ofConditions, ofNested⟩

/-- Nodes with a single part take one level each and leave what is inside as it is, by induction on
the nodes.
-/
theorem Compiler.compileWithin_wrapped {ops : List LogicalOperator}
    (plain : ∀ op ∈ ops, op ≠ .not) (levels : Nat) (m : Matrix)
    : compiler.compileWithin fields (levels + ops.length) (m.wrapped ops)
      = compiler.compileWithin fields levels m := by
  induction ops with
  | nil => rfl
  | cons op rest ih =>
      obtain ⟨outermost, inner⟩ := List.forall_mem_cons.mp plain
      have alone (part : Predicate ρ) : Predicate.combine op [part] = .ok part := by
        cases op with
        | and | or => rfl
        | not => exact absurd rfl outermost
      calc compiler.compileWithin fields (levels + rest.length + 1) (.node op [] [m.wrapped rest])
        _ = compiler.compileWithin fields (levels + rest.length) (m.wrapped rest) := by
            simp only [compileWithin, Matrix.conditions, Matrix.nested, Matrix.operator,
              List.mapM_nil, List.mapM_cons]
            cases compiler.compileWithin fields (levels + rest.length) (m.wrapped rest) with
            | ok part => exact alone part
            | error e => rfl
        _ = compiler.compileWithin fields levels m := ih inner

/-- A compiled predicate has the layout of its matrix, whatever the strategies are, those of the
caller included. From left to right its tests are those of the conditions, one for each, with the
constant in the place of each empty matrix; no other tests belong there. What joins parts joins at
least two, and nodes around the matrix that have no other part change nothing once the limit leaves
room for them.
-/
theorem Compiler.compile_keeps_layout {m : Matrix}
    (compiled : compiler.compile fields m = .ok p)
    : List.Forall₂ (Place.FilledBy compiler fields) m.places p.leaves
      ∧ (∀ tests,
          List.Forall₂ (Place.FilledBy compiler fields) m.places tests → tests = p.leaves)
      ∧ p.leafCount = m.allConditions.length + m.emptyNodes.length
      ∧ (∀ node ∈ p.nodes, node.Branches)
      ∧ ∀ ops : List LogicalOperator,
          (∀ op ∈ ops, op ≠ .not) →
          (compiler.withMaxDepth (compiler.maxDepth + ops.length)).compile fields (m.wrapped ops)
          = .ok p := by
  have filled := filledBy_of_compileWithin compiled
  refine ⟨filled, ?_, ?_, branches_of_compileWithin compiled, ?_⟩
  · intro tests again
    apply List.right_unique_forall₂' ?_ again filled
    intro place test test'
    exact Place.FilledBy.unique
  · rw [← Predicate.length_leaves, ← filled.length_eq, Matrix.length_places]
  · intro ops plain
    have fits : m.depth ≤ compiler.maxDepth :=
      ((compiler.compile_isOk_iff fields m).mp ⟨p, compiled⟩).1
    rw [compile, withMaxDepth, compileWithin_wrapped plain]
    exact (compileWithin_eq_ite compiled _ _).trans (if_pos fits)

/-- A negation and an empty node beside a condition, and one condition two levels further down. A
strategy of the caller reads the operator of the first condition as its own test.
-/
theorem Compiler.compile_keeps_layout_of_adults
    : let age : Accessor Value := ⟨⟨"age", .int32, true⟩, id⟩
      let fields : FieldIndex Value := ⟨"Person", [age]⟩
      let atLeast : ValueStrategy := {
        name := "at least"
        handles := fun op => op == .greaterThan
        operandType := fun _ => .int64
        build := fun _ _ constant => .ok (.not (.compare .lessThan constant))
      }
      let compiler : Compiler := ⟨⟨[atLeast, .membership, .comparison .greaterThan], []⟩, 3⟩
      let adult : Condition := ⟨"age", .greaterThan, .single (.int 18), by decide⟩
      let old : Condition := ⟨"AGE", .within, .array [.string "100"], by decide⟩
      let unknown : Condition := ⟨"age", .isNull, .null, by decide⟩
      let m :=
        Matrix.node .or [adult]
          [.node .not [old] [], .empty, .node .and [] [.node .or [unknown] []]]
      let p :=
        Predicate.or [
          .value age (.not (.compare .lessThan (.int64 18))),
          .not (.value age (.among [.int32 100])),
          .constant true,
          .isNull age
        ]
      compiler.compile fields m = .ok p
      ∧ List.Forall₂ (Place.FilledBy compiler fields)
          [.condition adult, .condition old, .empty, .condition unknown] p.leaves
      ∧ (∀ tests,
          List.Forall₂ (Place.FilledBy compiler fields)
            [.condition adult, .condition old, .empty, .condition unknown] tests →
          tests = p.leaves)
      ∧ p.leafCount = 3 + 1
      ∧ (∀ node ∈ p.nodes, node.Branches)
      ∧ (compiler.withMaxDepth 5).compile fields (.node .or [] [.node .and [] [m]]) = .ok p := by
  intro age fields atLeast compiler adult old unknown m p
  have compiled : compiler.compile fields m = .ok p := by
    dsimp only [age, fields, atLeast, compiler, adult, old, unknown, m, p]
    rfl
  obtain ⟨filled, alone, counted, branches, wrapped⟩ := compile_keeps_layout compiled
  exact ⟨compiled, filled, alone, counted, branches, wrapped [.or, .and] (by decide)⟩

end Tests

end RecordFilter
