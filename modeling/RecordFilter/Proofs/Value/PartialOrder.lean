import RecordFilter.Proofs.Value.Places

/-! The laws of the order of values and of their equality. Places are in a linear order, so that
values are in a partial one, and equality goes with it. What is not a number is equal to nothing, so
that no array that holds it is equal to itself.
-/

namespace RecordFilter

/-- A partial order by comparing, which may have no outcome, and an equality that goes with it. -/
structure PartialOrderLaws {α : Type} (compare? : α → α → Option Ordering)
    (equals : α → α → Bool)
    : Prop where
  swap : ∀ x y order, compare? x y = some order ↔ compare? y x = some order.swap
  equal_iff : ∀ x y order, compare? x y = some order → (order = .eq ↔ equals x y = true)
  trans
    : ∀ x y z,
        (compare? x y).any Ordering.isLE = true →
        (compare? y z).any Ordering.isLE = true →
        (compare? x z).any Ordering.isLE = true
        ∧ (compare? x y = some .lt ∨ compare? y z = some .lt → compare? x z = some .lt)
  congr : ∀ x y z, equals x y = true → compare? x z = compare? y z
  equals_symm : ∀ x y, equals x y = true → equals y x = true
  equals_trans : ∀ x y z, equals x y = true → equals y z = true → equals x z = true

/-- The comparison that an order of two values tells. -/
def Comparison.ofOrder : Ordering → Comparison
  | .lt => .lessThan
  | .eq => .equal
  | .gt => .greaterThan

namespace Value

mutual

/-- What is not a number occurs in the value, at any depth of its arrays. -/
def hasNan : Value → Bool
  | .float64 .nan => true
  | .array items => itemsHaveNan items
  | _ => false

def itemsHaveNan : List Value → Bool
  | [] => false
  | item :: rest => item.hasNan || itemsHaveNan rest

end

mutual

/-- A value is equal to itself unless it holds what is not a number, by recursion on the value. -/
theorem equals_self (value : Value) : value.equals value = !value.hasNan := by
  cases value with
  | array items => rw [equals, hasNan, equalItems_self items]
  | float64 x =>
      rw [equals]
      cases x with
      | nan => exact Binary64.nan_equals .nan
      | infinity _ | finite _ => exact Binary64.equals_self nofun
  | enum v => simp [equals, EnumValue.equals, EnumType.same, hasNan]
  | decimal d => simp [equals, Decimal.equals, hasNan]
  | null | bool _ | int32 _ | int64 _ | string _ | timestamp _ | uuid _ => simp [equals, hasNan]
termination_by sizeOf value

theorem equalItems_self (items : List Value) : equalItems items items = !itemsHaveNan items := by
  cases items with
  | nil => rfl
  | cons item rest =>
      rw [equalItems, itemsHaveNan, equals_self item, equalItems_self rest, Bool.not_or]
termination_by sizeOf items

end

mutual

/-- Equality is transitive, by recursion on the first value. Only arrays need it; what can be
compared is equal by its place.
-/
theorem equals_trans {first second third : Value} (h : first.equals second = true)
    (h' : second.equals third = true)
    : first.equals third = true := by
  cases placed : first.isPlaced with
  | true =>
      obtain ⟨comparable, same⟩ := (equals_iff_place placed).mp h
      obtain ⟨comparable', same'⟩ := (equals_iff_place comparable.right_isPlaced).mp h'
      exact (equals_iff_place placed).mpr ⟨comparable.trans comparable', same.trans same'⟩
  | false =>
      obtain ⟨rfl, rfl⟩ | ⟨xs, ys, rfl, rfl, items⟩ := cases_of_equals placed h
      · exact h'
      · obtain ⟨same, _⟩ | ⟨_, zs, same, rfl, items'⟩ := cases_of_equals rfl h'
        · cases same
        · cases same
          rw [equals]
          exact equalItems_trans items items'
termination_by sizeOf first

theorem equalItems_trans {firsts seconds thirds : List Value}
    (h : equalItems firsts seconds = true) (h' : equalItems seconds thirds = true)
    : equalItems firsts thirds = true := by
  cases firsts with
  | nil =>
      cases seconds with
      | nil => exact h'
      | cons _ _ => simp [equalItems] at h
  | cons x xs =>
      cases seconds with
      | nil => simp [equalItems] at h
      | cons y ys =>
          cases thirds with
          | nil => simp [equalItems] at h'
          | cons z zs =>
              rw [equalItems, Bool.and_eq_true] at h h' ⊢
              exact ⟨equals_trans h.1 h'.1, equalItems_trans h.2 h'.2⟩
termination_by sizeOf firsts

end

variable {left right : Value}

/-- Equal values are both among those that can be compared, or neither is. -/
theorem isPlaced_eq_of_equals (equal : left.equals right = true)
    : left.isPlaced = right.isPlaced := by
  cases placed : left.isPlaced with
  | true => exact ((equals_iff_place placed).mp equal).1.right_isPlaced.symm
  | false => obtain ⟨_, rfl⟩ | ⟨_, _, _, rfl, _⟩ := cases_of_equals placed equal <;> rfl

/-- Equal values are in the same order with all others. -/
theorem compare?_eq_of_equals (equal : left.equals right = true) (value : Value)
    : left.compare? value = right.compare? value := by
  have both := isPlaced_eq_of_equals equal
  cases placed : left.isPlaced with
  | true =>
      obtain ⟨comparable, same⟩ := (equals_iff_place placed).mp equal
      refine Option.ext fun order => ?_
      rw [compare?_eq_some_iff, compare?_eq_some_iff, same]
      exact and_congr_left fun _ => ⟨comparable.symm.trans, comparable.trans⟩
  | false =>
      rw [compare?_of_not_isPlaced placed, compare?_of_not_isPlaced (both.symm.trans placed)]

theorem partialOrderLaws : PartialOrderLaws compare? equals where
  swap left right order := by
    rw [left.compare?_swap right, Option.map_eq_some_iff]
    constructor
    · exact fun outcome => ⟨order, outcome, rfl⟩
    · rintro ⟨_, outcome, same⟩
      rwa [← Ordering.swap_inj.mp same]
  equal_iff left right order outcome := by
    have placed := (comparable_of_compare? outcome).left_isPlaced
    rw [← Option.some_inj, ← outcome, compare?_eq_some_eq_iff, and_iff_right placed]
  trans first second third le le' := by
    obtain ⟨comparable, le⟩ := any_compare?_isLE_iff.mp le
    obtain ⟨comparable', le'⟩ := any_compare?_isLE_iff.mp le'
    have together := comparable.trans comparable'
    refine ⟨any_compare?_isLE_iff.mpr ⟨together, le.trans le'⟩, ?_⟩
    rw [compare?_eq_some_lt_iff, compare?_eq_some_lt_iff, compare?_eq_some_lt_iff]
    rintro (⟨_, lt⟩ | ⟨_, lt⟩)
    · exact ⟨together, lt.trans_le le'⟩
    · exact ⟨together, le.trans_lt lt⟩
  congr _ _ value equal := compare?_eq_of_equals equal value
  equals_symm left right equal := (right.equals_comm left).trans equal
  equals_trans _ _ _ := equals_trans

/-- Of less, equal and greater the order of the places tells the one that holds. -/
theorem Comparable.holds_iff (h : left.Comparable right) {comparison : Comparison}
    (among : comparison ∈ [.lessThan, .equal, .greaterThan])
    : comparison.holds left right = true
      ↔ comparison = .ofOrder (compare left.place right.place) := by
  have equal : left.equals right = true ↔ compare left.place right.place = .eq := by
    rw [equals_iff_place h.left_isPlaced, and_iff_right h, compare_eq_iff_eq]
  simp only [List.mem_cons, List.not_mem_nil, or_false] at among
  rcases among with rfl | rfl | rfl
  case inr.inl =>
    rw [Comparison.holds, equal]
    cases compare left.place right.place <;> simp [Comparison.ofOrder]
  all_goals
    rw [Comparison.holds, h.compare?_eq, Option.any_some]
    cases compare left.place right.place <;> simp [Comparison.ofOrder]

theorem Comparable.existsUnique_holds (h : left.Comparable right)
    : ∃! comparison,
        comparison ∈ [Comparison.lessThan, .equal, .greaterThan]
        ∧ comparison.holds left right = true := by
  have among
      : Comparison.ofOrder (compare left.place right.place)
        ∈ [Comparison.lessThan, .equal, .greaterThan] := by
    cases compare left.place right.place <;> simp [Comparison.ofOrder]
  refine ⟨_, ⟨among, (h.holds_iff among).mpr rfl⟩, ?_⟩
  rintro other ⟨among', holds⟩
  exact (h.holds_iff among').mp holds

theorem holds_of_not_comparable (h : ¬left.Comparable right) {comparison : Comparison}
    (orders : comparison.isOrdering = true)
    : comparison.holds left right = false := by
  have unordered : left.compare? right = none := by
    rw [Option.eq_none_iff_forall_ne_some]
    exact fun _ outcome => h (comparable_of_compare? outcome)
  cases comparison with
  | equal | notEqual => cases orders
  | greaterThan | lessThan | greaterThanOrEqual | lessThanOrEqual =>
      rw [Comparison.holds, unordered, Option.any_none]

/-- Values are in a partial order that goes with their equality. Two values are in it if they can be
compared, and then they are in the order of their places, so that exactly one of less, equal and
greater holds; no comparison that asks for an order holds of any other two.
-/
theorem compare?_partially_orders
    : PartialOrderLaws compare? equals
      ∧ (∀ value : Value, value.equals value = !value.hasNan)
      ∧ (∀ (left right : Value) (order : Ordering),
          left.compare? right = some order
          ↔ left.Comparable right ∧ compare left.place right.place = order)
      ∧ ∀ left right : Value,
          (left.Comparable right →
            ∃! comparison,
              comparison ∈ [Comparison.lessThan, .equal, .greaterThan]
              ∧ comparison.holds left right = true)
          ∧ (¬left.Comparable right →
              ∀ comparison : Comparison,
                comparison.isOrdering = true → comparison.holds left right = false) :=
  ⟨partialOrderLaws, equals_self, fun _ _ _ => compare?_eq_some_iff,
    fun _ _ => ⟨Comparable.existsUnique_holds, fun apart _ => holds_of_not_comparable apart⟩⟩

/-- One number with one place and with two, and a greater one; what is not a number inside of an
array; members of two enumerations that are named alike and of one that is not.
-/
theorem compare?_partially_orders_of_scales
    : let short : Value := .decimal ⟨false, 10, 1, by decide, by decide⟩
      let long : Value := .decimal ⟨false, 100, 2, by decide, by decide⟩
      let two : Value := .decimal ⟨false, 2, 0, by decide, by decide⟩
      let nested : Value := .array [.null, .array [.float64 .nan]]
      let draft : Value := .enum ⟨⟨"Status", [("Draft", 0)]⟩, 0⟩
      let active : Value := .enum ⟨⟨"Status", [("Active", 1)]⟩, 1⟩
      let red : Value := .enum ⟨⟨"Color", [("Red", 0)]⟩, 0⟩
      short.equals long = true
      ∧ short.compare? two = long.compare? two
      ∧ short.compare? two = some .lt
      ∧ nested.equals nested = false
      ∧ draft.Comparable active
      ∧ (∃! comparison,
          comparison ∈ [Comparison.lessThan, .equal, .greaterThan]
          ∧ comparison.holds draft active = true)
      ∧ ¬draft.Comparable red
      ∧ Comparison.lessThanOrEqual.holds draft red = false := by
  intro short long two nested draft active red
  obtain ⟨laws, self, _, decided⟩ := compare?_partially_orders
  have equal : short.compare? long = some .eq := rfl
  have less : long.compare? two = some .lt := rfl
  have same : short.equals long = true := (laws.equal_iff short long .eq equal).mp rfl
  have together : draft.Comparable active := ⟨rfl, rfl, rfl, rfl⟩
  have apart : ¬draft.Comparable red := fun h => absurd h.enumeration (by decide)
  refine ⟨same, laws.congr short long two same, ?_, self nested, together, ?_, apart, ?_⟩
  · exact (laws.trans short long two (by rw [equal]; rfl) (by rw [less]; rfl)).2 (.inr less)
  · exact (decided draft active).1 together
  · exact (decided draft red).2 apart .lessThanOrEqual rfl

end Value

end RecordFilter
