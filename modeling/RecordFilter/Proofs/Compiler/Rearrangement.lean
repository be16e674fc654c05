import Mathlib.Data.List.Perm.Basic
import RecordFilter.Proofs.Compiler.Meaning

/-! Matrices whose conditions and nested matrices stand in another order. The order decides which
error comes first and how the predicate is laid out, and neither whether a matrix compiles nor which
records it accepts.
-/

namespace RecordFilter

/-- The second matrix is the first one with the conditions and the nested matrices of any of its
nodes, on all levels, in another order.
-/
inductive Matrix.Rearranged : Matrix → Matrix → Prop
  | node (op : LogicalOperator) {conditions conditions' : List Condition}
    {nested inPlace nested' : List Matrix} (ofConditions : conditions.Perm conditions')
    (below : List.Forall₂ Rearranged nested inPlace) (ofNested : inPlace.Perm nested')
    : Rearranged (.node op conditions nested) (.node op conditions' nested')

namespace Matrix.Rearranged

/-- Each matrix is a rearrangement of itself, by induction on the tree. -/
theorem refl (m : Matrix) : m.Rearranged m := by
  induction m using Matrix.induction with
  | step op conditions nested ih => exact .node op (.refl _) (List.forall₂_same.mpr ih) (.refl _)

/-- What has been rearranged can be rearranged back, by induction on the tree. -/
theorem symm {m m' : Matrix} (h : m.Rearranged m') : m'.Rearranged m := by
  induction m using Matrix.induction generalizing m' with
  | step op conditions nested ih =>
      cases h with
      | node _ ofConditions below ofNested =>
          have back := (forall₂_imp_of_mem below fun m member m' h => ih m member h).flip
          obtain ⟨inPlace, below, ofNested⟩ := List.perm_comp_forall₂ ofNested.symm back
          exact .node op ofConditions.symm below ofNested

end Matrix.Rearranged

/-- Parts can be combined by their number alone. -/
theorem Predicate.exists_combine_iff {ρ : Type} {op : LogicalOperator}
    {parts : List (Predicate ρ)}
    : (∃ p, combine op parts = .ok p) ↔ (op = .not → parts.length ≤ 1) := by
  cases op <;> rcases parts with _ | ⟨first, _ | ⟨second, rest⟩⟩ <;> simp [combine]

namespace Compiler

variable {ρ : Type} (compiler : Compiler) (fields : FieldIndex ρ)

/-- Within any number of levels a rearranged matrix compiles as well, to a predicate that accepts
the same records; by induction on the levels.
-/
theorem exists_compileWithin_of_rearranged {levels : Nat} {m m' : Matrix} {p : Predicate ρ}
    (h : m.Rearranged m') (compiled : compiler.compileWithin fields levels m = .ok p)
    : ∃ p',
        compiler.compileWithin fields levels m' = .ok p'
        ∧ ∀ record, p.accepts record = p'.accepts record := by
  induction levels generalizing m m' p with
  | zero => cases compiled
  | succ levels ih =>
      cases h with
      | node op ofConditions below ofNested =>
          obtain ⟨parts, subtrees, hc, hn, combined⟩ := compileWithin_succ_eq_ok_iff.mp compiled
          -- First the nested matrices are rearranged where they stand, then they change places.
          obtain ⟨inPlace, hi, alike⟩ := exists_forall₂_of_partners below hn fun _ _ _ => ih
          obtain ⟨parts', hc', ofParts⟩ := List.perm_comp_forall₂ ofConditions.symm hc
          obtain ⟨subtrees', hn', ofSubtrees⟩ := List.perm_comp_forall₂ ofNested.symm hi
          have count : (parts' ++ subtrees').length = (parts ++ subtrees).length := by
            rw [List.length_append, List.length_append, ofParts.length_eq, ofSubtrees.length_eq,
              alike.length_eq]
          obtain ⟨p', combined'⟩ : ∃ p', Predicate.combine op (parts' ++ subtrees') = .ok p' := by
            rw [Predicate.exists_combine_iff, count, ← Predicate.exists_combine_iff]
            exact ⟨p, combined⟩
          refine ⟨p', compileWithin_succ_eq_ok_iff.mpr ⟨parts', subtrees', hc', hn', combined'⟩, ?_⟩
          intro record
          apply Predicate.accepts_eq_of_combine combined combined'
          have verdicts : subtrees.map (·.accepts record) = inPlace.map (·.accepts record) :=
            (map_eq_of_forall₂ alike fun part _ part' same => (same record).symm).symm
          rw [List.map_append, List.map_append, verdicts]
          exact (ofParts.symm.map _).append (ofSubtrees.symm.map _)

/-- The order of conditions and nested matrices is of no account. A rearranged matrix compiles
exactly when the matrix does, and then both predicates accept the same records.
-/
theorem compile_rearranged_agrees {m m' : Matrix} (h : m.Rearranged m')
    : ((∃ p, compiler.compile fields m = .ok p) ↔ ∃ p', compiler.compile fields m' = .ok p')
      ∧ ∀ p p',
          compiler.compile fields m = .ok p →
          compiler.compile fields m' = .ok p' →
          ∀ record, p.accepts record = p'.accepts record := by
  refine ⟨⟨?forth, ?back⟩, ?verdicts⟩
  case forth =>
    intro ⟨p, compiled⟩
    obtain ⟨p', compiled', _⟩ := compiler.exists_compileWithin_of_rearranged fields h compiled
    exact ⟨p', compiled'⟩
  case back =>
    intro ⟨p', compiled'⟩
    obtain ⟨p, compiled, _⟩ := compiler.exists_compileWithin_of_rearranged fields h.symm compiled'
    exact ⟨p, compiled⟩
  case verdicts =>
    intro p p' compiled compiled' record
    obtain ⟨found, again, same⟩ := compiler.exists_compileWithin_of_rearranged fields h compiled
    obtain rfl : found = p' := Except.ok.inj (again.symm.trans compiled')
    exact same record

/-- Conditions change places on two levels, and so do the nested matrices, one of which negates an
empty node.
-/
theorem compile_rearranged_agrees_of_two_levels
    : let age : Accessor Value := ⟨⟨"age", .int32, true⟩, id⟩
      let fields : FieldIndex Value := ⟨"Person", [age]⟩
      let compiler := Compiler.standard.withMaxDepth 3
      let adult : Condition := ⟨"age", .greaterThan, .single (.int 17), by decide⟩
      let unknown : Condition := ⟨"age", .isNull, .null, by decide⟩
      let few : Condition := ⟨"AGE", .within, .array [.int 7, .json .null], by decide⟩
      let m :=
        Matrix.node .or [adult, unknown] [.node .and [few, unknown] [], .node .not [] [.empty]]
      let m' :=
        Matrix.node .or [unknown, adult] [.node .not [] [.empty], .node .and [unknown, few] []]
      m.Rearranged m'
      ∧ ∃ p p',
          compiler.compile fields m = .ok p
          ∧ compiler.compile fields m' = .ok p'
          ∧ ∀ record, p.accepts record = p'.accepts record := by
  intro age fields compiler adult unknown few m m'
  have inner
      : Matrix.Rearranged (.node .and [few, unknown] []) (.node .and [unknown, few] []) :=
    .node .and (.swap unknown few []) .nil .nil
  have moved : m.Rearranged m' :=
    .node .or (.swap unknown adult []) (.cons inner (.cons (.refl _) .nil)) (.swap _ _ [])
  obtain ⟨alike, verdicts⟩ := compile_rearranged_agrees compiler fields moved
  have compiles : ∃ p, compiler.compile fields m = .ok p := by
    dsimp only [age, fields, compiler, adult, unknown, few, m]
    exact ⟨_, rfl⟩
  obtain ⟨p, compiled⟩ := compiles
  obtain ⟨p', compiled'⟩ := alike.mp ⟨p, compiled⟩
  exact ⟨moved, p, p', compiled, compiled', verdicts p p' compiled compiled'⟩

end Compiler

end RecordFilter
