import RecordFilter.Compiler

/-! Predicates over wider records. A record that holds more than a predicate asks for is accepted
for the part that the predicate was made for, and parts are combined alike over both.
-/

namespace RecordFilter

variable {ρ ρ' : Type}

/-- The field, read off wider records. -/
def Accessor.comap (narrow : ρ' → ρ) (accessor : Accessor ρ) : Accessor ρ' :=
  ⟨accessor.field, fun record => accessor.read (narrow record)⟩

namespace Predicate

mutual

/-- The same combination of the same tests, whose fields are read off wider records. -/
def comap (narrow : ρ' → ρ) : Predicate ρ → Predicate ρ'
  | .constant holds => .constant holds
  | .value field test => .value (field.comap narrow) test
  | .column left right test => .column (left.comap narrow) (right.comap narrow) test
  | .isNull field => .isNull (field.comap narrow)
  | .and parts => .and (comapAll narrow parts)
  | .or parts => .or (comapAll narrow parts)
  | .not part => .not (part.comap narrow)

def comapAll (narrow : ρ' → ρ) : List (Predicate ρ) → List (Predicate ρ')
  | [] => []
  | part :: rest => part.comap narrow :: comapAll narrow rest

end

theorem comapAll_eq_map (narrow : ρ' → ρ) (parts : List (Predicate ρ))
    : comapAll narrow parts = parts.map (comap narrow) := by
  induction parts with
  | nil => rfl
  | cons part rest ih => rw [comapAll, ih, List.map_cons]

mutual

/-- A wider record is accepted for what it is narrowed to, by recursion on the predicate. -/
theorem accepts_comap (narrow : ρ' → ρ) (record : ρ')
    : (p : Predicate ρ) → (p.comap narrow).accepts record = p.accepts (narrow record)
  | .constant _ => rfl
  | .value _ _ => rfl
  | .column _ _ _ => rfl
  | .isNull _ => rfl
  | .and parts => allAccept_comapAll narrow record parts
  | .or parts => someAccepts_comapAll narrow record parts
  | .not part => congrArg (!·) (accepts_comap narrow record part)

theorem allAccept_comapAll (narrow : ρ' → ρ) (record : ρ')
    : (parts : List (Predicate ρ)) →
      allAccept record (comapAll narrow parts) = allAccept (narrow record) parts
  | [] => rfl
  | part :: rest => by
      rw [comapAll, allAccept, allAccept, accepts_comap narrow record part,
        allAccept_comapAll narrow record rest]

theorem someAccepts_comapAll (narrow : ρ' → ρ) (record : ρ')
    : (parts : List (Predicate ρ)) →
      someAccepts record (comapAll narrow parts) = someAccepts (narrow record) parts
  | [] => rfl
  | part :: rest => by
      rw [comapAll, someAccepts, someAccepts, accepts_comap narrow record part,
        someAccepts_comapAll narrow record rest]

end

mutual

/-- Records that are not narrowed at all leave a predicate as it is. -/
theorem comap_id : (p : Predicate ρ) → p.comap id = p
  | .constant _ => rfl
  | .value _ _ => rfl
  | .column _ _ _ => rfl
  | .isNull _ => rfl
  | .and parts => congrArg Predicate.and (comapAll_id parts)
  | .or parts => congrArg Predicate.or (comapAll_id parts)
  | .not part => congrArg Predicate.not (comap_id part)

theorem comapAll_id : (parts : List (Predicate ρ)) → comapAll id parts = parts
  | [] => rfl
  | part :: rest => by rw [comapAll, comap_id part, comapAll_id rest]

end

/-- Parts are combined alike over wider records. -/
theorem combine_map_comap (narrow : ρ' → ρ) (op : LogicalOperator) (parts : List (Predicate ρ))
    : combine op (parts.map (comap narrow)) = (combine op parts).map (comap narrow) := by
  -- The arms are those of the combination: no part, a single one and more than one.
  match op, parts with
  | .and, [] | .or, [] | .not, [] => rfl
  | .and, [part] | .or, [part] | .not, [part] => rfl
  | .and, first :: second :: rest | .or, first :: second :: rest =>
      simp [combine, Except.map, comap, comapAll_eq_map]
  | .not, first :: second :: rest => simp [combine, Except.map]

end Predicate

end RecordFilter
