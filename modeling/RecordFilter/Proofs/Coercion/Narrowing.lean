import RecordFilter.Proofs.Coercion.Shape
import RecordFilter.Proofs.Decimal.Value
import RecordFilter.Proofs.Integer

/-! Constants as integers. Both integer types read a constant as one and the same 64-bit integer,
and the narrower type takes it only where it fits, so that no number is ever cut off. A decimal
number is read as the integer that it is nearest to.
-/

namespace RecordFilter

namespace Scalar

/-- The integer that a constant from either side is read as, before it is narrowed. -/
def integer? : Scalar → Option Int64
  | .json (.number text) => Json.wholeNumber? text
  | scalar => scalar.toInt64?

theorem singleValue?_int64 (scalar : Scalar)
    : scalar.singleValue? .int64 = scalar.integer?.map .int64 := by
  cases scalar with
  | json document => cases document <;> rfl
  | _ => rfl

theorem singleValue?_int32 (scalar : Scalar)
    : scalar.singleValue? .int32
      = (scalar.integer?.bind fun n => Integer.int32? n.toInt).map .int32 := by
  cases scalar with
  | json document => cases document <;> rfl
  | _ => rfl

end Scalar

namespace Operand

variable {operand : Operand} {type : FieldType} {value : Value}

/-- Where no position has an error, a value is made, and it mirrors the operand. -/
theorem exists_mirrors {shape : Shape} (same : operand.shape = shape)
    (fits : shape.firstError? type = none)
    : ∃ value, operand.coerce type = .ok value ∧ value.Mirrors shape type := by
  rw [← same, ← errorOf?_coerce, errorOf?_eq_none_iff] at fits
  obtain ⟨value, taken⟩ := fits
  exact ⟨value, taken, same ▸ mirrors_of_coerce taken⟩

/-- Null is a value of all types, and nothing else becomes null. -/
theorem coerce_eq_null_iff : operand.coerce type = .ok .null ↔ operand.shape = .null := by
  constructor
  · intro taken
    have mirrors := mirrors_of_coerce taken
    -- Which operand it is does not count any more, only the shape that the value mirrors.
    generalize operand.shape = shape at mirrors
    cases mirrors with
    | null => rfl
    | single _ filled _ _ => cases filled
  · intro same
    obtain ⟨value, taken, mirrors⟩ := exists_mirrors same (Shape.firstError?_null type)
    cases mirrors
    exact taken

/-- A type other than an array takes a single constant as the value that the constant stands for. -/
theorem coerce_eq_ok_iff_of_isFilterable (leaf : type.isFilterable = true)
    (filled : value.isNull = false)
    : operand.coerce type = .ok value
      ↔ ∃ source, operand.shape = .single source ∧ source.singleValue? type = some value := by
  constructor
  · intro taken
    have mirrors := mirrors_of_coerce taken
    generalize operand.shape = shape at mirrors
    cases mirrors with
    | null => cases filled
    | single read _ _ _ => exact ⟨_, rfl, read⟩
    | list _ _ => cases leaf
  · rintro ⟨source, same, read⟩
    have fits : Shape.firstError? type (.single source) = none := by
      rw [Shape.firstError?_single, Shape.Position.error?]
      cases type with
      | array element => cases leaf
      | _ => simp [Shape.Position.clashes, read]
    obtain ⟨value', taken, mirrors⟩ := exists_mirrors same fits
    cases mirrors with
    | single read' _ _ _ => rw [taken, Option.some_inj.mp (read'.symm.trans read)]

theorem coerce_int64_eq_ok_iff {k : Int64}
    : operand.coerce .int64 = .ok (.int64 k)
      ↔ ∃ source, operand.shape = .single source ∧ source.integer? = some k := by
  rw [coerce_eq_ok_iff_of_isFilterable rfl rfl]
  simp [Scalar.singleValue?_int64]

/-- The narrower type takes the same integer or none. -/
theorem coerce_int32_eq_ok_iff {i : Int32}
    : operand.coerce .int32 = .ok (.int32 i)
      ↔ ∃ k : Int64, operand.coerce .int64 = .ok (.int64 k) ∧ k.toInt = i.toInt := by
  rw [coerce_eq_ok_iff_of_isFilterable rfl rfl]
  simp only [Scalar.singleValue?_int32, Option.map_eq_some_iff, Option.bind_eq_some_iff,
    Integer.int32?_eq_some_iff, Value.int32.injEq, exists_eq_right, coerce_int64_eq_ok_iff]
  constructor
  · rintro ⟨source, same, k, read, narrow⟩
    exact ⟨k, ⟨source, same, read⟩, narrow.symm⟩
  · rintro ⟨k, ⟨source, same, read⟩, narrow⟩
    exact ⟨source, same, k, read, narrow.symm⟩

/-- A decimal number becomes the integer that it rounds to, where that has 64 bits. -/
theorem coerce_decimal_int64_eq_ok_iff {d : Decimal}
    : (single (.decimal d)).coerce .int64 = .ok value
      ↔ ∃ k : Int64, value = .int64 k ∧ k.toInt = d.nearestInt := by
  have read : (single (.decimal d)).coerce .int64 = .ok value
      ↔ (Integer.int64? d.nearestInt).map .int64 = some value :=
    @Scalar.convert_eq_ok_iff (.decimal d) .int64 value
  simp only [read, Option.map_eq_some_iff, Integer.int64?_eq_some_iff]
  constructor
  · rintro ⟨k, rounded, rfl⟩
    exact ⟨k, rfl, rounded⟩
  · rintro ⟨k, rfl, rounded⟩
    exact ⟨k, rounded, rfl⟩

/-- An operand is taken for an integer of 32 bits exactly where it is taken for this very integer
among those of 64 bits and it is from `-2 ^ 31` to below `2 ^ 31`, and for null by both types or by
neither. A decimal number has one nearest integer, the even one of two; it is taken for this one,
and exactly where this is from `-2 ^ 63` to below `2 ^ 63`.
-/
theorem coerce_integer_exact
    : (∀ (operand : Operand) (n : Int),
        (∃ i : Int32, operand.coerce .int32 = .ok (.int32 i) ∧ i.toInt = n)
        ↔ (∃ k : Int64, operand.coerce .int64 = .ok (.int64 k) ∧ k.toInt = n)
          ∧ -2 ^ 31 ≤ n
          ∧ n < 2 ^ 31)
      ∧ (∀ operand : Operand,
          operand.coerce .int32 = .ok .null ↔ operand.coerce .int64 = .ok .null)
      ∧ ∀ d : Decimal,
          ∃ n : Int,
            (∀ m, Rounding.IsNearestEvenInt m d.value ↔ m = n)
            ∧ ((∃ value, (single (.decimal d)).coerce .int64 = .ok value)
              ↔ -2 ^ 63 ≤ n ∧ n < 2 ^ 63)
            ∧ ∀ value,
                (single (.decimal d)).coerce .int64 = .ok value
                ↔ ∃ k : Int64, value = .int64 k ∧ k.toInt = n := by
  refine ⟨fun operand n => ?narrow, fun operand => ?null, fun d => ?decimal⟩
  case narrow =>
    simp only [coerce_int32_eq_ok_iff]
    constructor
    · rintro ⟨i, ⟨k, taken, same⟩, rfl⟩
      exact ⟨⟨k, taken, same⟩, i.le_toInt, i.toInt_lt⟩
    · rintro ⟨⟨k, taken, rfl⟩, range⟩
      obtain ⟨i, same⟩ := Integer.exists_int32_iff.mpr ⟨⟨k, rfl⟩, range⟩
      exact ⟨i, ⟨k, taken, same.symm⟩, same⟩
  case null => rw [coerce_eq_null_iff, coerce_eq_null_iff]
  case decimal =>
    refine ⟨d.nearestInt, fun m => Decimal.isNearestEvenInt_iff, ?_,
      fun value => coerce_decimal_int64_eq_ok_iff⟩
    simp only [coerce_decimal_int64_eq_ok_iff, ← Integer.exists_int64_iff]
    constructor
    · rintro ⟨_, k, _, rounded⟩
      exact ⟨k, rounded⟩
    · rintro ⟨k, rounded⟩
      exact ⟨_, k, rfl, rounded⟩

/-- The tie below the range rounds into it, and the one above its greatest number out of it. -/
example
    : let below : Decimal := ⟨true, 92233720368547758085, 1, by decide, by decide⟩
      let above : Decimal := ⟨false, 92233720368547758075, 1, by decide, by decide⟩
      (single (.decimal below)).coerce .int64 = .ok (.int64 Int64.minValue)
      ∧ (single (.decimal above)).coerce .int64
        = .error (.valueConversion (.decimal above) .int64) :=
  ⟨rfl, rfl⟩

end Operand

end RecordFilter
