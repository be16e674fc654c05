import RecordFilter.Predicate.Comparison

/-! Equality and order of values seen from either side. Values are equal from both sides or from
neither, and what is greater from one side is less from the other, so that each comparison has a
converse. Values of different kinds are neither equal nor in an order.
-/

namespace RecordFilter

theorem Binary64.compare?_swap (x y : Binary64)
    : y.compare? x = (x.compare? y).map Ordering.swap := by
  unfold compare?
  cases x.rank? with
  | none => cases y.rank? <;> rfl
  | some i =>
      cases y.rank? with
      | none => rfl
      | some j => exact congrArg some Std.OrientedOrd.eq_swap

theorem Binary64.equals_comm (x y : Binary64) : x.equals y = y.equals x := by
  rw [equals, equals, compare?_swap x y]
  rcases x.compare? y with _ | _ | _ | _ <;> rfl

theorem Binary64.nan_equals (x : Binary64) : nan.equals x = false := by
  cases x <;> rfl

theorem Binary64.equals_self {x : Binary64} (number : x ≠ nan) : x.equals x = true := by
  cases x with
  | nan => exact absurd rfl number
  | infinity _ | finite _ => simp [equals, compare?, rank?]

theorem EnumType.same_comm (left right : EnumType) : left.same right = right.same left :=
  Bool.beq_comm

namespace Value

theorem apart_of_kind_ne {left right : Value} (h : left.kind ≠ right.kind)
    : left.equals right = false ∧ left.compare? right = none := by
  cases left <;> cases right <;> simp_all [equals, compare?, kind]

mutual

/-- Two values are equal from both sides or from neither, by recursion on the first. -/
theorem equals_comm (left right : Value) : left.equals right = right.equals left := by
  cases left with
  | array xs =>
      cases right with
      | array ys => simpa only [equals] using equalItems_comm xs ys
      | _ => simp only [equals]
  | float64 x =>
      cases right with
      | float64 y => simpa only [equals] using x.equals_comm y
      | _ => simp only [equals]
  | enum v =>
      cases right with
      | enum w =>
          simp only [equals, EnumValue.equals, v.type.same_comm w.type,
            @Bool.beq_comm _ _ _ v.value w.value]
      | _ => simp only [equals]
  | null | bool _ | int32 _ | int64 _ | decimal _ | string _ | timestamp _ | uuid _ =>
      cases right <;> simp only [equals, Decimal.equals, Bool.beq_comm]
termination_by sizeOf left

theorem equalItems_comm (lefts rights : List Value)
    : equalItems lefts rights = equalItems rights lefts := by
  cases lefts with
  | nil => cases rights <;> simp only [equalItems]
  | cons x xs =>
      cases rights with
      | nil => simp only [equalItems]
      | cons y ys => rw [equalItems, equalItems, equals_comm x y, equalItems_comm xs ys]
termination_by sizeOf lefts

end

/-- Two values are in the opposite order from the other side, if they are in an order at all. -/
theorem compare?_swap (left right : Value)
    : right.compare? left = (left.compare? right).map Ordering.swap := by
  cases left with
  | float64 x =>
      cases right with
      | float64 y => exact x.compare?_swap y
      | _ => rfl
  | enum v =>
      cases right with
      | enum w =>
          simp only [compare?, w.type.same_comm v.type]
          split
          · exact congrArg some Std.OrientedOrd.eq_swap
          · rfl
      | _ => rfl
  | null | bool _ | int32 _ | int64 _ | decimal _ | string _ | timestamp _ | uuid _ | array _ =>
      cases right <;> first | rfl | exact congrArg some Std.OrientedOrd.eq_swap

end Value

namespace Comparison

/-- The comparison that holds from the other side. -/
def converse : Comparison → Comparison
  | .equal => .equal
  | .notEqual => .notEqual
  | .greaterThan => .lessThan
  | .lessThan => .greaterThan
  | .greaterThanOrEqual => .lessThanOrEqual
  | .lessThanOrEqual => .greaterThanOrEqual

theorem converse_converse (comparison : Comparison)
    : comparison.converse.converse = comparison := by
  cases comparison <;> rfl

theorem isOrdering_converse (comparison : Comparison)
    : comparison.converse.isOrdering = comparison.isOrdering := by
  cases comparison <;> rfl

theorem holds_converse (comparison : Comparison) (left right : Value)
    : comparison.converse.holds right left = comparison.holds left right := by
  cases comparison with
  | equal => exact right.equals_comm left
  | notEqual => exact congrArg (!·) (right.equals_comm left)
  | greaterThan | lessThan | greaterThanOrEqual | lessThanOrEqual =>
      simp only [converse, holds, left.compare?_swap right]
      rcases left.compare? right with _ | _ | _ | _ <;> rfl

/-- Of two values at most one is greater than the other. -/
theorem greaterThan_asymm {left right : Value} (forth : greaterThan.holds left right = true)
    : greaterThan.holds right left = false := by
  rw [← holds_converse]
  simp only [converse, holds] at forth ⊢
  rcases order : left.compare? right with _ | _ | _ | _
  case some.gt => rfl
  all_goals
    rw [order] at forth
    cases forth

/-- One value is greater than another or equal to it in the order, or neither of the two. -/
theorem greaterThanOrEqual_iff {left right : Value}
    : greaterThanOrEqual.holds left right = true
      ↔ greaterThan.holds left right = true ∨ left.compare? right = some .eq := by
  simp only [holds]
  rcases left.compare? right with _ | _ | _ | _ <;> simp [Ordering.isGE]

end Comparison

end RecordFilter
