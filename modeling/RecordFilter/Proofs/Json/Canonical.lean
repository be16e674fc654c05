import Mathlib.Data.List.Perm.Basic
import Mathlib.Data.String.Basic
import RecordFilter.Json.Basic

/-! The canonical form of a value. Members with different names are only put in order, and a value
whose members are in order already is its own canonical form.
-/

namespace RecordFilter.Json

/-- The members of an object as they are written; other values have none. -/
def members : Json → List (String × Json)
  | .object members => members
  | _ => []

/-- No name is written twice in the object. -/
def HasDistinctNames (json : Json) : Prop :=
  (json.members.map Prod.fst).Nodup

theorem canonicalItems_eq_map (items : List Json) : canonicalItems items = items.map canonical := by
  induction items with
  | nil => rfl
  | cons item rest ih => rw [canonicalItems, ih, List.map_cons]

theorem canonicalMembers_eq_map (members : List (String × Json))
    : canonicalMembers members = members.map (Prod.map id canonical) := by
  induction members with
  | nil => rfl
  | cons member rest ih => rw [canonicalMembers, ih, List.map_cons, Prod.map, id]

section Members

variable {name : String} {value : Json} {members sorted : List (String × Json)}

/-- A member with a new name is put among the others, by induction on these. -/
theorem insertMember_perm (fresh : name ∉ sorted.map Prod.fst)
    : (insertMember name value sorted).Perm ((name, value) :: sorted) := by
  induction sorted with
  | nil => exact .refl _
  | cons member rest ih =>
      rw [List.map_cons, List.mem_cons, not_or] at fresh
      rw [insertMember]
      split
      next => exact .refl _
      next same => exact absurd (compare_eq_iff_eq.mp same) fresh.1
      next => exact ((ih fresh.2).cons member).trans (.swap _ _ _)

/-- A member with a name above all others is put after them, by induction on these. -/
theorem insertMember_of_forall_lt (above : ∀ member ∈ sorted, member.1 < name)
    : insertMember name value sorted = sorted ++ [(name, value)] := by
  induction sorted with
  | nil => rfl
  | cons member rest ih =>
      rw [List.forall_mem_cons] at above
      rw [insertMember, compare_gt_iff_gt.mpr above.1, ih above.2, List.cons_append]

/-- Members with different names are only put in order; by induction on those that are left. -/
theorem sortMembers_perm (distinct : (members.map Prod.fst).Nodup)
    : (sortMembers members).Perm members := by
  suffices general
      : ∀ sorted : List (String × Json),
          ((sorted ++ members).map Prod.fst).Nodup
          → (members.foldl (fun sorted member => insertMember member.1 member.2 sorted)
              sorted).Perm (sorted ++ members) from
    general [] distinct
  clear distinct
  induction members with
  | nil => simp
  | cons member rest ih =>
      intro sorted distinct
      have fresh : member.1 ∉ sorted.map Prod.fst := by
        rw [List.map_append, List.map_cons, List.nodup_append] at distinct
        exact fun again => distinct.2.2 _ again _ (List.mem_cons_self ..) rfl
      have placed : (insertMember member.1 member.2 sorted).Perm (member :: sorted) :=
        insertMember_perm fresh
      have moved
          : (insertMember member.1 member.2 sorted ++ rest).Perm (sorted ++ member :: rest) :=
        (placed.append_right rest).trans List.perm_middle.symm
      rw [List.foldl_cons]
      exact (ih _ ((moved.map Prod.fst).nodup_iff.mpr distinct)).trans moved

/-- Members in order stay as they are; by induction on those that are left. -/
theorem sortMembers_of_pairwise_lt (ordered : members.Pairwise fun x y => x.1 < y.1)
    : sortMembers members = members := by
  suffices general
      : ∀ sorted : List (String × Json),
          (sorted ++ members).Pairwise (fun x y => x.1 < y.1)
          → members.foldl (fun sorted member => insertMember member.1 member.2 sorted) sorted
            = sorted ++ members from
    general [] ordered
  clear ordered
  induction members with
  | nil => simp
  | cons member rest ih =>
      intro sorted ordered
      have above : ∀ lower ∈ sorted, lower.1 < member.1 := fun lower among =>
        (List.pairwise_append.mp ordered).2.2 lower among member (List.mem_cons_self ..)
      rw [List.foldl_cons, insertMember_of_forall_lt above, ih, List.append_assoc]
      · rfl
      · simpa using ordered

end Members

section Shapes

variable {json : Json} {members : List (String × Json)}

theorem eq_array_of_canonical_eq {items : List Json} (same : json.canonical = .array items)
    : ∃ written, json = .array written ∧ items = written.map canonical := by
  cases json with
  | array written =>
      rw [canonical, canonicalItems_eq_map] at same
      exact ⟨written, rfl, (Json.array.inj same).symm⟩
  | null | bool _ | number _ | string _ | object _ => cases same

/-- An object that repeats no name has its own members, put in order, in its canonical form. -/
theorem members_perm_of_canonical_eq (distinct : (object members).HasDistinctNames)
    {kept : List (String × Json)} (same : (object members).canonical = .object kept)
    : kept.Perm (members.map (Prod.map id canonical)) := by
  rw [canonical, canonicalMembers_eq_map, Json.object.injEq] at same
  rw [← same]
  refine sortMembers_perm ?_
  simpa [Function.comp_def, HasDistinctNames, Json.members] using distinct

theorem eq_nil_of_canonical_eq (distinct : (object members).HasDistinctNames)
    (same : (object members).canonical = .object [])
    : members = [] :=
  List.map_eq_nil_iff.mp (members_perm_of_canonical_eq distinct same).nil_eq.symm

theorem eq_singleton_of_canonical_eq (distinct : (object members).HasDistinctNames)
    {name : String} {value : Json} (same : (object members).canonical = .object [(name, value)])
    : ∃ written, members = [(name, written)] ∧ value = written.canonical := by
  have alone := (members_perm_of_canonical_eq distinct same).singleton_eq
  obtain ⟨⟨name', written⟩, rfl, member⟩ := List.map_eq_singleton_iff.mp alone.symm
  cases member
  exact ⟨written, rfl, rfl⟩

end Shapes

end RecordFilter.Json
