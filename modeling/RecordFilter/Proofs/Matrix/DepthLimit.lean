import RecordFilter.Proofs.Compiler.Acceptance
import RecordFilter.Proofs.Matrix.Elements

/-! One limit for the three walks over a matrix: compiling, writing and reading. A walk that
succeeds at some limit gives the same result at every limit that the depth of the matrix is within,
and fails for the depth at every other one.
-/

namespace RecordFilter

/-- The walk gives the result at the limits from a depth on, and is refused for the depth at smaller
ones.
-/
structure LimitedBy (depth : Nat) (walk : Nat → Except Error α) (result : α) : Prop where
  within : ∀ limit, depth ≤ limit → walk limit = .ok result
  beyond : ∀ limit, limit < depth → walk limit = .error (.depthExceeded limit)

namespace LimitedBy

variable {α : Type} {depth limit : Nat} {walk : Nat → Except Error α} {result other : α}

theorem of_eq_ite
    (h
      : ∀ limit, walk limit = if depth ≤ limit then .ok result else .error (.depthExceeded limit))
    : LimitedBy depth walk result where
  within limit fits := by rw [h, if_pos fits]
  beyond limit small := by rw [h, if_neg (Nat.not_le.mpr small)]

/-- A limit at which the walk succeeds is no smaller than the depth. -/
theorem depth_le (h : LimitedBy depth walk result) (succeeds : walk limit = .ok other)
    : depth ≤ limit := by
  by_contra small
  rw [h.beyond limit (Nat.not_le.mp small)] at succeeds
  cases succeeds

theorem isOk_iff (h : LimitedBy depth walk result)
    : (∃ found, walk limit = .ok found) ↔ depth ≤ limit :=
  ⟨fun ⟨_, succeeds⟩ => h.depth_le succeeds, fun fits => ⟨result, h.within limit fits⟩⟩

end LimitedBy

namespace Matrix

variable {limit levels : Nat} {m : Matrix} {json : Json}

/-- A matrix that is written within some levels is written alike within all levels that are enough
for it, and fails for the depth within fewer; by induction on the tree.
-/
theorem toJsonWithin_eq_ite (written : m.toJsonWithin limit levels = .ok json)
    (limit' levels' : Nat)
    : m.toJsonWithin limit' levels'
      = if m.depth ≤ levels' then .ok json else .error (.depthExceeded limit') := by
  induction m using Matrix.induction generalizing json levels levels' with
  | step op conditions nested ih =>
      cases levels with
      | zero => cases written
      | succ levels =>
          cases levels' with
          | zero => rw [if_neg (not_depth_le_zero _), toJsonWithin]
          | succ levels' =>
              simp only [depth_node_le_succ_iff]
              by_cases parts : conditions ≠ [] ∨ nested ≠ []
              · obtain ⟨ofConditions, ofNested, hc, hn, rfl⟩ :=
                  (toJsonWithin_node_eq_ok_iff parts).mp written
                have each
                    : List.Forall₂
                        (fun m json =>
                          m.toJsonWithin limit' levels'
                          = if m.depth ≤ levels' then .ok json else .error (.depthExceeded limit'))
                        nested ofNested :=
                  forall₂_imp_of_mem hn fun m member json h => ih m member h levels'
                have filled : ¬(node op conditions nested).isEmpty = true := by
                  rwa [isEmpty_iff, not_and_or]
                rw [toJsonWithin, if_neg filled, Matrix.conditions, mapM_eq_ok_iff.mpr hc, ok_bind,
                  Matrix.nested, mapM_eq_ite each, ite_bind]
                rfl
              · obtain ⟨rfl, rfl⟩ : conditions = [] ∧ nested = [] := by simpa using parts
                cases written
                rw [if_pos (by simp)]
                rfl

end Matrix

namespace Compiler

variable {ρ : Type} {compiler : Compiler} {fields : FieldIndex ρ} {levels : Nat} {m : Matrix}
  {p : Predicate ρ}

/-- A matrix that compiles within some levels compiles alike within all levels that are enough for
it, and fails for the depth within fewer; by induction on the tree.
-/
theorem compileWithin_eq_ite (compiled : compiler.compileWithin fields levels m = .ok p)
    (limit' levels' : Nat)
    : (compiler.withMaxDepth limit').compileWithin fields levels' m
      = if m.depth ≤ levels' then .ok p else .error (.depthExceeded limit') := by
  induction m using Matrix.induction generalizing p levels levels' with
  | step op conditions nested ih =>
      cases levels with
      | zero => cases compiled
      | succ levels =>
          cases levels' with
          | zero =>
              rw [if_neg (Matrix.not_depth_le_zero _), compileWithin]
              rfl
          | succ levels' =>
              obtain ⟨parts, subtrees, hc, hn, combined⟩ :=
                compileWithin_succ_eq_ok_iff.mp compiled
              have each
                  : List.Forall₂
                      (fun m part =>
                        (compiler.withMaxDepth limit').compileWithin fields levels' m
                        = if m.depth ≤ levels' then .ok part
                          else .error (.depthExceeded limit'))
                      nested subtrees :=
                forall₂_imp_of_mem hn fun m member part h => ih m member h levels'
              have ofConditions
                  : conditions.mapM ((compiler.withMaxDepth limit').compileCondition fields)
                    = .ok parts :=
                mapM_eq_ok_iff.mpr hc
              simp only [Matrix.depth_node_le_succ_iff]
              rw [compileWithin, Matrix.conditions, ofConditions, ok_bind, Matrix.nested,
                mapM_eq_ite each, ite_bind, Matrix.operator, combined]

end Compiler

section Walks

variable {ρ : Type} {limit : Nat} {m : Matrix}

theorem Compiler.limitedBy_depth {compiler : Compiler} {fields : FieldIndex ρ} {p : Predicate ρ}
    (compiled : (compiler.withMaxDepth limit).compile fields m = .ok p)
    : LimitedBy m.depth (fun limit => (compiler.withMaxDepth limit).compile fields m) p :=
  .of_eq_ite fun other => compileWithin_eq_ite compiled other other

theorem Matrix.limitedBy_depth_of_toJson {json : Json} (written : m.toJson limit = .ok json)
    : LimitedBy m.depth m.toJson json :=
  .of_eq_ite fun other => toJsonWithin_eq_ite written other other

theorem Matrix.limitedBy_depth_of_ofJson {json : Json} (read : ofJson json limit = .ok m)
    : LimitedBy m.depth (ofJson json) m :=
  .of_eq_ite fun other => (readFrom_of_ofJsonWithin read).ofJsonWithin_eq other other

/-- What is read from the document of a matrix has its depth, whatever the limits were. -/
theorem Matrix.depth_of_ofJson_toJson {limit' : Nat} {m' : Matrix} {json : Json}
    (written : m.toJson limit = .ok json) (read : ofJson json limit' = .ok m')
    : m'.depth = m.depth := by
  -- A limit above both depths makes the writer and the reader meet.
  have wide := (limitedBy_depth_of_toJson written).within _ (Nat.le_max_left _ m'.depth)
  have reread := (limitedBy_depth_of_ofJson read).within _ (Nat.le_max_right m.depth _)
  exact ((ofJson_eq_ok_iff wide).mp reread).depth_eq

/-- Compiling, writing and reading have one limit each, which is the depth of the matrix. At the
limits that are no smaller a walk that succeeds at all gives one result, and at the others it fails
for the depth. So a matrix that compiles and is written does both at the same limits, and these are
also the limits at which it is read from any of its documents, and at which its own document is read
if it is read at all.
-/
theorem Matrix.walks_limitedBy_depth
    : (∀ (ρ : Type) (compiler : Compiler) (fields : FieldIndex ρ) (m : Matrix) (limit : Nat)
          (p : Predicate ρ),
          (compiler.withMaxDepth limit).compile fields m = .ok p →
          m.depth ≤ limit
          ∧ LimitedBy m.depth (fun limit => (compiler.withMaxDepth limit).compile fields m) p)
      ∧ (∀ (m : Matrix) (limit : Nat) (json : Json),
          m.toJson limit = .ok json → m.depth ≤ limit ∧ LimitedBy m.depth m.toJson json)
      ∧ (∀ (json : Json) (limit : Nat) (m : Matrix),
          ofJson json limit = .ok m → m.depth ≤ limit ∧ LimitedBy m.depth (ofJson json) m)
      ∧ ∀ (ρ : Type) (compiler : Compiler) (fields : FieldIndex ρ) (m : Matrix) (p : Predicate ρ)
          (json : Json) (compiledAt writtenAt : Nat),
          (compiler.withMaxDepth compiledAt).compile fields m = .ok p →
          m.toJson writtenAt = .ok json →
          ∀ limit,
            ((∃ p, (compiler.withMaxDepth limit).compile fields m = .ok p) ↔ m.depth ≤ limit)
            ∧ ((∃ json, m.toJson limit = .ok json) ↔ m.depth ≤ limit)
            ∧ ∀ (document : Json) (m' : Matrix) (readAt : Nat),
                ofJson document readAt = .ok m' →
                m' = m ∨ document = json →
                ((∃ m', ofJson document limit = .ok m') ↔ m.depth ≤ limit) := by
  refine ⟨?compiling, ?writing, ?reading, ?together⟩
  case compiling =>
    intro ρ compiler fields m limit p compiled
    have limited := Compiler.limitedBy_depth compiled
    exact ⟨limited.depth_le compiled, limited⟩
  case writing =>
    intro m limit json written
    have limited := limitedBy_depth_of_toJson written
    exact ⟨limited.depth_le written, limited⟩
  case reading =>
    intro json limit m read
    have limited := limitedBy_depth_of_ofJson read
    exact ⟨limited.depth_le read, limited⟩
  case together =>
    intro ρ compiler fields m p json compiledAt writtenAt compiled written limit
    refine ⟨(Compiler.limitedBy_depth compiled).isOk_iff,
      (limitedBy_depth_of_toJson written).isOk_iff, fun document m' readAt read which => ?_⟩
    have sameDepth : m'.depth = m.depth := by
      rcases which with rfl | rfl
      · rfl
      · exact depth_of_ofJson_toJson written read
    rw [← sameDepth]
    exact (limitedBy_depth_of_ofJson read).isOk_iff

/-- Two levels are needed for a condition next to an empty node. -/
theorem Matrix.walks_limitedBy_depth_of_adults
    : let age : Accessor Value := ⟨⟨"age", .int32, true⟩, id⟩
      let fields : FieldIndex Value := ⟨"Person", [age]⟩
      let adult : Condition := ⟨"age", .greaterThan, .single (.json (.number "17")), by decide⟩
      let m := node .or [adult] [empty]
      let p := Predicate.or [.value age (.compare .greaterThan (.int32 17)), .constant true]
      let element := Json.object [("age", .object [("_gt", .number "17")])]
      let document := Json.object [("_or", .array [element, .object []])]
      LimitedBy 2 (fun limit => (Compiler.standard.withMaxDepth limit).compile fields m) p
      ∧ LimitedBy 2 m.toJson document
      ∧ LimitedBy 2 (ofJson document) m
      ∧ ∀ limit,
          ((∃ p, (Compiler.standard.withMaxDepth limit).compile fields m = .ok p) ↔ 2 ≤ limit)
          ∧ ((∃ json, m.toJson limit = .ok json) ↔ 2 ≤ limit)
          ∧ ((∃ m', ofJson document limit = .ok m') ↔ 2 ≤ limit) := by
  intro age fields adult m p element document
  obtain ⟨compiling, writing, reading, together⟩ := walks_limitedBy_depth
  have compiled : (Compiler.standard.withMaxDepth 2).compile fields m = .ok p := by
    dsimp only [age, fields, adult, m, p]
    rfl
  have written : m.toJson 2 = .ok document := rfl
  have read : ofJson document 2 = .ok m := rfl
  refine ⟨(compiling _ _ fields m 2 p compiled).2, (writing m 2 document written).2,
    (reading document 2 m read).2, fun limit => ?_⟩
  obtain ⟨compiles, writes, reads⟩ := together _ _ fields m p document 2 2 compiled written limit
  exact ⟨compiles, writes, reads document m 2 read (.inl rfl)⟩

end Walks

end RecordFilter
