import Mathlib.Data.String.Basic
import Mathlib.Data.Sum.Order
import RecordFilter.Proofs.Binary64.Order
import RecordFilter.Proofs.Decimal.Value
import RecordFilter.Proofs.Timestamp.Order
import RecordFilter.Proofs.Value.Order

/-! The places of values. A value that can be compared stands at a number or at a text, and two such
values are compared as their places if they are of one kind and, as members, of one enumeration.
Equality of these values is equality of their places.
-/

namespace RecordFilter

/-- A strictly monotone function leaves the outcome of comparing as it is. -/
theorem compare_of_strictMono {α β : Type} [LinearOrder α] [LinearOrder β] {f : α → β}
    (mono : StrictMono f) (x y : α)
    : compare (f x) (f y) = compare x y := by
  rw [← cmp_eq_compare, ← cmp_eq_compare, mono.cmp_map_eq]

theorem Decimal.compare_value (d e : Decimal) : Ord.compare d.value e.value = d.compare e := by
  have mono : StrictMono fun units : Int => (units : ℚ) / 10 ^ 28 :=
    Int.cast_strictMono.div_const (by positivity)
  rw [d.value_eq_grid_div, e.value_eq_grid_div]
  exact compare_of_strictMono mono d.grid e.grid

namespace Value

/-- Numbers with the infinities on both sides, and texts beyond them. -/
abbrev Place := WithBotTop ℚ ⊕ₗ String

namespace Place

def number (q : WithBotTop ℚ) : Place :=
  Sum.inlₗ q

def text (s : String) : Place :=
  Sum.inrₗ s

theorem compare_text (s t : String) : compare (text s) (text t) = compare s t :=
  compare_of_strictMono Sum.Lex.inr_strictMono s t

theorem compare_number (p q : WithBotTop ℚ) : compare (number p) (number q) = compare p q :=
  compare_of_strictMono Sum.Lex.inl_strictMono p q

theorem compare_rational (p q : ℚ) : compare (number p) (number q) = compare p q :=
  (compare_number p q).trans (compare_of_strictMono WithBotTop.coe_strictMono p q)

theorem compare_int (m n : Int) : compare (number (m : ℚ)) (number (n : ℚ)) = compare m n :=
  (compare_rational m n).trans (compare_of_strictMono Int.cast_strictMono m n)

theorem compare_nat (m n : Nat) : compare (number (m : ℚ)) (number (n : ℚ)) = compare m n :=
  (compare_rational m n).trans (compare_of_strictMono Nat.strictMono_cast m n)

end Place

/-- The value is one that others can be compared with: neither null nor an array, and not a floating
point number that is not a number.
-/
def isPlaced : Value → Bool
  | .null | .array _ | .float64 .nan => false
  | _ => true

/-- The name of the enumeration that a value is a member of. -/
def enumeration? : Value → Option String
  | .enum v => some v.type.name
  | _ => none

/-- The values can be compared with each other: they are of one kind, and of one enumeration if they
are members.
-/
structure Comparable (left right : Value) : Prop where
  left_isPlaced : left.isPlaced = true
  right_isPlaced : right.isPlaced = true
  kind : left.kind = right.kind
  enumeration : left.enumeration? = right.enumeration?

/-- The place of a value among those of its kind. A number stands where the number is that it
denotes, an instant at its rank and a member at its number.
-/
def place : Value → Place
  | .bool b => .number (b.toNat : ℚ)
  | .int32 n => .number (n.toInt : ℚ)
  | .int64 n => .number (n.toInt : ℚ)
  | .float64 x => .number (x.extended?.getD 0)
  | .decimal d => .number d.value
  | .string s => .text s
  | .timestamp t => .number (t.rank : ℚ)
  | .uuid u => .number (u.value : ℚ)
  | .enum v => .number (v.value.toInt : ℚ)
  | .null | .array _ => .number 0

variable {left right first second third : Value} {order : Ordering}

namespace Comparable

theorem symm (h : left.Comparable right) : right.Comparable left :=
  ⟨h.right_isPlaced, h.left_isPlaced, h.kind.symm, h.enumeration.symm⟩

theorem trans (h : first.Comparable second) (h' : second.Comparable third)
    : first.Comparable third :=
  ⟨h.left_isPlaced, h'.right_isPlaced, h.kind.trans h'.kind, h.enumeration.trans h'.enumeration⟩

end Comparable

theorem compare?_of_not_isPlaced (unplaced : left.isPlaced = false) (right : Value)
    : left.compare? right = none := by
  cases left with
  | null | array _ => rfl
  | float64 x =>
      cases x with
      | nan => cases right <;> rfl
      | infinity _ | finite _ => cases unplaced
  | _ => cases unplaced

theorem exists_extended_of_isPlaced {x : Binary64} (placed : (float64 x).isPlaced = true)
    : ∃ p, x.extended? = some p := by
  cases x with
  | nan => cases placed
  | infinity _ | finite _ => exact ⟨_, rfl⟩

/-- Values that can be compared are compared as their places, by cases on their kind. -/
theorem Comparable.compare?_eq (h : left.Comparable right)
    : left.compare? right = some (compare left.place right.place) := by
  obtain ⟨leftPlaced, rightPlaced, kind, enumeration⟩ := h
  cases left <;> cases right <;> simp [Value.kind] at kind
  case null.null | array.array => cases leftPlaced
  case bool.bool => exact congrArg some (Place.compare_nat _ _).symm
  case int32.int32 => exact congrArg some (Place.compare_int _ _).symm
  case int64.int64 => exact congrArg some (Place.compare_int _ _).symm
  case float64.float64 x y =>
    obtain ⟨p, hp⟩ := exists_extended_of_isPlaced leftPlaced
    obtain ⟨q, hq⟩ := exists_extended_of_isPlaced rightPlaced
    rw [place, place, hp, hq, Option.getD_some, Option.getD_some, Place.compare_number]
    exact Binary64.compare?_eq_some hp hq
  case decimal.decimal d e =>
    rw [place, place, Place.compare_rational, d.compare_value]
    rfl
  case string.string => exact congrArg some (Place.compare_text _ _).symm
  case timestamp.timestamp => exact congrArg some (Place.compare_int _ _).symm
  case uuid.uuid => exact congrArg some (Place.compare_nat _ _).symm
  case enum.enum v w =>
    have same : v.type.same w.type = true := by
      simpa [enumeration?, EnumType.same] using enumeration
    rw [compare?, if_pos same]
    exact congrArg some (Place.compare_int _ _).symm

theorem comparable_of_compare? (outcome : left.compare? right = some order)
    : left.Comparable right where
  left_isPlaced := by
    by_contra unplaced
    cases (compare?_of_not_isPlaced (Bool.eq_false_iff.mpr unplaced) right).symm.trans outcome
  right_isPlaced := by
    by_contra unplaced
    rw [right.compare?_swap left, compare?_of_not_isPlaced (Bool.eq_false_iff.mpr unplaced)]
      at outcome
    cases outcome
  kind := by
    by_contra other
    cases (apart_of_kind_ne other).2.symm.trans outcome
  enumeration := by
    cases left <;> cases right <;> simp [compare?, enumeration?, EnumType.same] at outcome ⊢
    exact outcome.1

/-- The order has an outcome for the values that can be compared, and it is that of their places. -/
theorem compare?_eq_some_iff
    : left.compare? right = some order
      ↔ left.Comparable right ∧ compare left.place right.place = order := by
  constructor
  · intro outcome
    have comparable := comparable_of_compare? outcome
    exact ⟨comparable, Option.some.inj (comparable.compare?_eq.symm.trans outcome)⟩
  · rintro ⟨comparable, rfl⟩
    exact comparable.compare?_eq

/-- Equality and the order agree on what is equal, by cases on the kind of both values. -/
theorem compare?_eq_some_eq_iff
    : left.compare? right = some .eq ↔ left.isPlaced = true ∧ left.equals right = true := by
  cases left <;> cases right <;> simp [compare?, isPlaced, equals]
  case bool.bool b c => cases b <;> cases c <;> simp
  case int32.int32 => exact Int32.toInt_inj
  case int64.int64 => exact Int64.toInt_inj
  case float64.float64 x y =>
    cases x with
    | nan => simp [Binary64.compare?, Binary64.rank?]
    | infinity _ | finite _ => simp [Binary64.equals]
  case decimal.decimal d e => simp [Decimal.compare, Decimal.equals]
  case timestamp.timestamp t u =>
    rw [Timestamp.compare, Std.compare_eq_iff_eq]
    exact ⟨Timestamp.rank_injective, congrArg _⟩
  case uuid.uuid u v =>
    cases u
    cases v
    simp [Uuid.compare]
  case enum.enum v w => simp [EnumValue.equals, Int64.toInt_inj]

/-- A value that can be compared equals those that can be compared with it and stand at its place.
-/
theorem equals_iff_place (placed : left.isPlaced = true)
    : left.equals right = true ↔ left.Comparable right ∧ left.place = right.place := by
  have equal : left.equals right = true ↔ left.compare? right = some .eq := by
    rw [compare?_eq_some_eq_iff, and_iff_right placed]
  rw [equal, compare?_eq_some_iff, compare_eq_iff_eq]

/-- Apart from the values that can be compared, nulls are equal and arrays with equal items. -/
theorem cases_of_equals (unplaced : left.isPlaced = false) (equal : left.equals right = true)
    : left = .null ∧ right = .null
      ∨ ∃ xs ys, left = .array xs ∧ right = .array ys ∧ equalItems xs ys = true := by
  cases left with
  | null =>
      cases right <;> simp [equals] at equal
      exact .inl ⟨rfl, rfl⟩
  | array xs =>
      cases right <;> simp [equals] at equal
      exact .inr ⟨xs, _, rfl, rfl, equal⟩
  | float64 x =>
      cases x with
      | nan => cases right <;> simp [equals, Binary64.nan_equals] at equal
      | infinity _ | finite _ => cases unplaced
  | _ => cases unplaced

theorem any_compare?_isLE_iff
    : (left.compare? right).any Ordering.isLE = true
      ↔ left.Comparable right ∧ left.place ≤ right.place := by
  rw [Option.any_eq_true, ← compare_le_iff_le, ne_eq, Ordering.ne_gt_iff_isLE]
  constructor
  · rintro ⟨order, outcome, le⟩
    obtain ⟨comparable, rfl⟩ := compare?_eq_some_iff.mp outcome
    exact ⟨comparable, le⟩
  · rintro ⟨comparable, le⟩
    exact ⟨_, comparable.compare?_eq, le⟩

theorem compare?_eq_some_lt_iff
    : left.compare? right = some .lt ↔ left.Comparable right ∧ left.place < right.place := by
  rw [compare?_eq_some_iff, compare_lt_iff_lt]

end Value

end RecordFilter
