import RecordFilter.Proofs.Binary64.ReadBack
import RecordFilter.Proofs.Coercion.Agreement
import RecordFilter.Proofs.Decimal.Conversion
import RecordFilter.Proofs.Value.Order

/-! Constants on the way through a document. Where a constant and its written form both take a type,
their values are equal exactly when no digit that counts for the type is lost in writing.
-/

namespace RecordFilter

open RecordFilter.Json (Numeral)
open RecordFilter.Binary64 (Finite)

namespace Binary64.Finite

variable {x : Finite}

/-- The text of a number denotes the number with its shortest digits. -/
theorem exists_numeral_written (x : Finite)
    : ∃ n : Numeral,
        x.jsonText = n.text ∧ n.value = x.written ∧ Decimal.Holds n.base.value := by
  obtain ⟨n, text, negative, size, base⟩ := x.exists_numeral
  exact ⟨n, text, by rw [Numeral.value, negative, size, written], base⟩

/-- A whole number is written as one. -/
theorem exists_written_of_isWhole (whole : x.IsWhole) : ∃ k : Int, x.written = k := by
  obtain ⟨k, same⟩ := exists_writtenSize_of_isWhole whole
  refine ⟨if x.negative then -(k : Int) else k, ?_⟩
  rw [written, same, signedBy]
  split <;> simp

/-- Where the last place is one or less, a whole number is written as it is. -/
theorem written_eq_value (whole : x.IsWhole) (fine : x.exponent ≤ 0) : x.written = x.value := by
  rw [written, writtenSize_of_isWhole whole fine, value]

/-- The text of a number is read as the decimal number nearest to what it denotes. -/
theorem grid_of_ofText? {d : Decimal} (read : Decimal.ofText? x.jsonText = some d)
    : d.grid = Decimal.nearestGrid x.written := by
  obtain ⟨n, text, value, base⟩ := x.exists_numeral_written
  rw [text] at read
  rw [← value, Decimal.grid_of_ofText? base read]

/-- A whole number in the text of a number is taken for exactly this one. -/
theorem value_of_ofText? {d : Decimal} (whole : x.IsWhole)
    (read : Decimal.ofText? x.jsonText = some d)
    : d.value = x.written := by
  obtain ⟨i, same⟩ := exists_written_of_isWhole whole
  rw [Decimal.value_eq_grid_div, grid_of_ofText? read, same, Decimal.nearestGrid_intCast,
    Int.cast_mul, Int.cast_pow, Int.cast_ofNat, mul_div_assoc, div_self (by positivity), mul_one]

/-- The whole number in the text of a whole number is what the text denotes. -/
theorem toInt_of_isWhole {k : Int64} (whole : x.IsWhole)
    (read : Json.wholeNumber? x.jsonText = some k)
    : (k.toInt : ℚ) = x.written := by
  obtain ⟨n, text, value, base⟩ := x.exists_numeral_written
  obtain ⟨i, same⟩ := exists_written_of_isWhole whole
  rw [text] at read
  have units := Json.grid_of_wholeNumber? base read
  rw [value, same, Decimal.nearestGrid_intCast] at units
  rw [same, Int.eq_of_mul_eq_mul_right (by norm_num) units]

/-- The whole number in the text of a number with a fraction is what the number rounds to. -/
theorem toInt_of_fraction {k : Int64} (fine : x.exponent < 0)
    (read : Json.wholeNumber? x.jsonText = some k)
    : x.nearestInt = k.toInt := by
  obtain ⟨n, text, value, base⟩ := x.exists_numeral_written
  rw [text] at read
  have units := Json.grid_of_wholeNumber? base read
  rw [value, written, Decimal.nearestGrid_signedBy _ x.writtenSize_nonneg] at units
  obtain ⟨i, hi⟩ : ∃ i : Int, i = if x.negative then -k.toInt else k.toInt := ⟨_, rfl⟩
  have rounded : round (x.writtenSize * 10 ^ 28) = i * 10 ^ 28 := by
    rw [hi]
    split at units
    next negative =>
      rw [if_pos negative]
      omega
    next positive => rw [if_neg positive, units]
  -- What is written lies within half a unit of the whole number, and the number within a quarter of
  -- one of what is written, so that no other whole number is as near.
  have close := abs_le.mp (abs_sub_round (x.writtenSize * 10 ^ 28))
  rw [rounded, Int.cast_mul, Int.cast_pow, Int.cast_ofNat] at close
  have natural : 0 ≤ i := by
    by_contra below
    have : (i : ℚ) ≤ -1 := by exact_mod_cast (by omega : i ≤ -1)
    linarith [x.writtenSize_nonneg]
  obtain ⟨m, rfl⟩ := Int.eq_ofNat_of_zero_le natural
  have quarter : (2 : ℚ) ^ x.exponent ≤ 1 / 2 := by
    calc (2 : ℚ) ^ x.exponent ≤ 2 ^ (-1 : Int) := zpow_le_zpow_right₀ (by norm_num) (by omega)
      _ = 1 / 2 := by norm_num
  have shown := abs_le.mp x.abs_writtenSize_sub_le
  have near : |x.size - m| < 1 / 2 := by
    rw [abs_lt]
    push_cast at close
    constructor <;> linarith
  rw [nearestInt_eq near]
  split at hi <;> simp_all

end Binary64.Finite

/-- What a constant is for a type is not lost in writing. A whole floating point number has to be
written with its exact value, and one with a fraction as a number that rounds to the decimal number
that it converts to; a decimal number has to convert to the floating point number nearest to it. The
second of an instant must not run past its end, other than the last one of a minute.
-/
def Scalar.KeptAs : Scalar → FieldType → Prop
  | .float (.finite x), .int64 => x.IsWhole → x.written = x.value
  | .float (.finite x), .decimal =>
      (x.IsWhole → x.written = x.value)
      ∧ (¬x.IsWhole →
          ∀ d, Decimal.ofFinite? x = some d → d.grid = Decimal.nearestGrid x.written)
  | .decimal d, .float64 =>
      d.toBinary64.equals (.ofFraction d.negative d.mantissa (Nat.pow 10 d.scale)) = true
  | .timestamp t, .timestamp => ¬t.Overruns
  | _, _ => True

section Agreement

variable {x : Finite} {value result : Value} {type : FieldType}

/-- Every value that a single value of a document takes is equal to itself. -/
theorem Json.equals_self_of_toValue? {json : Json} (taken : json.toValue? type = some value)
    : value.equals value = true := by
  unfold toValue? at taken
  split at taken
  case h_4 =>
    obtain ⟨y, read, rfl⟩ := Option.map_eq_some_iff.mp taken
    have finite : y.isFinite = true := (Option.filter_eq_some_iff.mp read).2
    refine Binary64.equals_self ?_
    rintro rfl
    cases finite
  case h_11 => cases taken
  case h_1 | h_7 =>
    cases taken
    simp [Value.equals]
  all_goals
    obtain ⟨_, _, rfl⟩ := Option.map_eq_some_iff.mp taken
    simp [Value.equals, Decimal.equals, EnumValue.equals, EnumType.same]

/-- An integer type takes both forms of a floating point number for the same number unless that is
whole and written as another one.
-/
theorem Binary64.Finite.nearestInt_eq_iff {k : Int64}
    (read : Json.wholeNumber? x.jsonText = some k)
    : x.nearestInt = k.toInt ↔ (x.IsWhole → x.written = x.value) := by
  -- Where bits stand behind the point, a whole number is written as it is.
  rcases Int.lt_or_le x.exponent 0 with fine | coarse
  · exact ⟨fun _ whole => written_eq_value whole fine.le, fun _ => toInt_of_fraction fine read⟩
  · have whole := isWhole_of_nonneg coarse
    rw [← toInt_of_isWhole whole read, ← nearestInt_of_isWhole whole]
    constructor
    · intro same _
      rw [same]
    · intro same
      exact_mod_cast (same whole).symm

/-- Below `2 ^ 53` the last place is one or less. -/
theorem Binary64.Finite.exponent_nonpos (small : x.size < 2 ^ 53) : x.exponent ≤ 0 := by
  by_contra coarse
  obtain ⟨_, _, _, normal⟩ := x.canonical
  have filled : 1 <<< 52 ≤ x.significand := by
    by_contra short
    have := normal (by omega)
    omega
  rw [Nat.one_shiftLeft] at filled
  have significand : (2 : ℚ) ^ 52 ≤ x.significand := by exact_mod_cast filled
  have power : (2 : ℚ) ≤ 2 ^ x.exponent := by
    calc (2 : ℚ) = 2 ^ (1 : Int) := by norm_num
      _ ≤ 2 ^ x.exponent := zpow_le_zpow_right₀ (by norm_num) (by omega)
  have : (2 : ℚ) ^ 52 * 2 ≤ x.size := mul_le_mul significand power (by norm_num) (by positivity)
  linarith

theorem Integer.abs_toInt_le (n : Int32) : |(n.toInt : ℚ)| ≤ 2 ^ 31 := by
  have above : (n.toInt : ℚ) ≤ 2 ^ 31 := by exact_mod_cast n.toInt_lt.le
  have below : -(2 ^ 31 : ℚ) ≤ n.toInt := by exact_mod_cast n.le_toInt
  exact abs_le.mpr ⟨below, above⟩

/-- A whole number of 32 bits is below `2 ^ 53`. -/
theorem Binary64.Finite.size_lt_of_int32 {n : Int32} (whole : x.IsWhole)
    (narrow : n.toInt = x.nearestInt)
    : x.size < 2 ^ 53 := by
  have value : (n.toInt : ℚ) = x.value := by rw [narrow, nearestInt_of_isWhole whole]
  have small : x.size ≤ 2 ^ 31 := by
    rw [← x.abs_value, ← value]
    exact Integer.abs_toInt_le n
  linarith

/-- Whole numbers below `2 ^ 53` are written digit by digit. -/
theorem Scalar.keptAs_int64_of_size_lt (small : x.size < 2 ^ 53)
    : (Scalar.float (.finite x)).KeptAs .int64 :=
  fun whole => Finite.written_eq_value whole (Finite.exponent_nonpos small)

/-- A type of 64-bit integers takes both forms for the same number unless that is whole and written
as another one.
-/
theorem Scalar.equals_int64_iff
    (native : (Scalar.float (.finite x)).toValue? .int64 = some value)
    (read : (Json.number x.jsonText).toValue? .int64 = some result)
    : value.equals result = true ↔ (x.IsWhole → x.written = x.value) := by
  obtain ⟨k, rounded, rfl⟩ := Option.map_eq_some_iff.mp native
  obtain ⟨k', whole, rfl⟩ := Option.map_eq_some_iff.mp read
  have rounded : k.toInt = x.nearestInt := Integer.int64?_eq_some_iff.mp rounded
  rw [← Finite.nearestInt_eq_iff whole, ← rounded, Value.equals, beq_iff_eq, Int64.toInt_inj]

/-- Whole numbers of 32 bits are small enough to be written digit by digit. -/
theorem Scalar.equals_int32
    (native : (Scalar.float (.finite x)).toValue? .int32 = some value)
    (read : (Json.number x.jsonText).toValue? .int32 = some result)
    : value.equals result = true := by
  obtain ⟨i, narrowed, rfl⟩ := Option.map_eq_some_iff.mp native
  obtain ⟨k, rounded, narrow⟩ := Option.bind_eq_some_iff.mp narrowed
  obtain ⟨i', narrowed', rfl⟩ := Option.map_eq_some_iff.mp read
  obtain ⟨k', taken, narrow'⟩ := Option.bind_eq_some_iff.mp narrowed'
  have rounded : k.toInt = x.nearestInt := Integer.int64?_eq_some_iff.mp rounded
  have narrow : i.toInt = k.toInt := Integer.int32?_eq_some_iff.mp narrow
  have narrow' : i'.toInt = k'.toInt := Integer.int32?_eq_some_iff.mp narrow'
  have same : x.nearestInt = k'.toInt := by
    refine (Finite.nearestInt_eq_iff taken).mpr fun whole => ?_
    have small := Finite.size_lt_of_int32 whole (narrow.trans rounded)
    exact keptAs_int64_of_size_lt small whole
  rw [Value.equals, beq_iff_eq, ← Int32.toInt_inj, narrow, narrow', rounded, same]

/-- A decimal type takes a whole number for exactly this one, and every number for the decimal
number nearest to what is written.
-/
theorem Scalar.equals_decimal_iff
    (native : (Scalar.float (.finite x)).toValue? .decimal = some value)
    (read : (Json.number x.jsonText).toValue? .decimal = some result)
    : value.equals result = true ↔ (Scalar.float (.finite x)).KeptAs .decimal := by
  obtain ⟨d, converted, rfl⟩ := Option.map_eq_some_iff.mp native
  obtain ⟨d', taken, rfl⟩ := Option.map_eq_some_iff.mp read
  have converted : Decimal.ofFinite? x = some d := converted
  have nearest := Finite.grid_of_ofText? taken
  change d.equals d' = true ↔ _ ∧ _
  by_cases whole : x.IsWhole
  · rw [Decimal.equals_iff, Finite.value_of_ofText? whole taken,
      Decimal.value_of_ofFinite? whole converted]
    simp only [whole, forall_const, not_true_eq_false, false_imp_iff, and_true, eq_comm]
  · rw [Decimal.equals, beq_iff_eq, nearest]
    simp only [whole, converted, false_imp_iff, true_and, not_false_eq_true, forall_const,
      Option.some.injEq, forall_eq']

/-- A floating point number is taken alike in both forms exactly when it is kept for the type, by
cases on the type.
-/
theorem Scalar.equals_float_iff
    (native : (Scalar.float (.finite x)).toValue? type = some value)
    (read : (Json.number x.jsonText).toValue? type = some result)
    : value.equals result = true ↔ (Scalar.float (.finite x)).KeptAs type := by
  cases type with
  | int32 => exact iff_of_true (equals_int32 native read) trivial
  | int64 => exact equals_int64_iff native read
  | decimal => exact equals_decimal_iff native read
  | float64 =>
      obtain ⟨y, taken, rfl⟩ := Option.map_eq_some_iff.mp read
      rw [Json.finiteNumber?, x.ofChars?_jsonText] at taken
      cases (Option.filter_eq_some_iff.mp taken).1
      cases native
      exact iff_of_true (Json.equals_self_of_toValue? read) trivial
  | enum members => cases native
  | bool | string | timestamp | uuid | array element => cases read

/-- The text of a decimal number is read as the floating point number nearest to it. -/
theorem Decimal.ofChars?_text (d : Decimal)
    : Binary64.ofChars? d.text.toList
      = some (.ofFraction d.negative d.mantissa (Nat.pow 10 d.scale)) := by
  have places : d.numeral.places.length = d.scale := d.length_placeChars
  have exponent : d.numeral.exponent = 0 := rfl
  have sign : d.numeral.negative = d.negative := rfl
  rw [← text_numeral, Numeral.text, String.toList_ofList, Binary64.ofChars?_chars,
    mantissa_numeral, places, exponent, sign, Int.zero_sub]
  have scale := d.scale_le
  by_cases zero : d.mantissa = 0
  · rw [zero, Binary64.ofDecimal, if_pos rfl, Binary64.ofFraction, if_pos rfl]
  · rw [Binary64.ofDecimal, if_neg zero, if_neg (by omega), if_neg (by omega), Int.neg_neg,
      Int.toNat_natCast, Int.toNat_of_nonpos (by omega)]
    exact congrArg (fun size => some (Binary64.ofFraction _ size _)) (Nat.mul_one d.mantissa)

/-- A type of floating point numbers takes the text of a decimal number for the nearest one. -/
theorem Scalar.equals_decimal_float64_iff {d : Decimal}
    (native : (Scalar.decimal d).toValue? .float64 = some value)
    (read : (Json.number d.text).toValue? .float64 = some result)
    : value.equals result = true ↔ (Scalar.decimal d).KeptAs .float64 := by
  obtain ⟨y, taken, rfl⟩ := Option.map_eq_some_iff.mp read
  rw [Json.finiteNumber?, d.ofChars?_text] at taken
  cases (Option.filter_eq_some_iff.mp taken).1
  cases native
  rfl

/-- A type of instants takes the text of an instant for the one that it shows. -/
theorem Scalar.equals_timestamp_iff {t : Timestamp}
    (native : (Scalar.timestamp t).toValue? .timestamp = some value)
    (read : (Json.string t.text).toValue? .timestamp = some result)
    : value.equals result = true ↔ (Scalar.timestamp t).KeptAs .timestamp := by
  rw [Json.toValue?, Option.map_eq_some_iff] at read
  obtain ⟨u, again, rfl⟩ := read
  cases native
  rw [t.eq_shown_of_ofText? again, Value.equals, beq_iff_eq, eq_comm]
  exact t.shown_eq_self_iff

/-- A constant and its written form are equal as values of a type exactly when what the constant is
for the type is kept in writing.
-/
theorem Scalar.coerce_equals_iff_keptAs {scalar : Scalar} {json : Json}
    (native : ∀ document, scalar ≠ .json document)
    (written : scalar.toJson = .ok json)
    (taken : scalar.coerce type = .ok value)
    (read : (Scalar.json json).coerce type = .ok result)
    : value.equals result = true ↔ scalar.KeptAs type := by
  have single : json.toValue? type = some result := by
    cases scalar with
    | json document => exact absurd rfl (native document)
    | float y =>
        cases y <;> cases written
        exact (Json.convert_eq_ok_iff (by simp) (by simp)).mp read
    | bool _ | int _ | decimal _ | string _ | timestamp _ | uuid _ =>
        cases written
        exact (Json.convert_eq_ok_iff (by simp) (by simp)).mp read
  -- Apart from rounded numbers and moved instants no test tells the two values apart.
  have alike (exact : scalar.ExactFor type) : value.equals result = true := by
    have same := coerce_alike_of_toJson written exact taken read
    rw [same.equals_left]
    exact Json.equals_self_of_toValue? single
  cases scalar with
  | json document => exact absurd rfl (native document)
  | float y =>
      cases y <;> cases written
      exact equals_float_iff (convert_eq_ok_iff.mp taken) single
  | decimal d =>
      cases written
      cases type with
      | float64 => exact equals_decimal_float64_iff (convert_eq_ok_iff.mp taken) single
      | _ => exact iff_of_true (alike trivial) trivial
  | timestamp t =>
      cases written
      cases type with
      | timestamp => exact equals_timestamp_iff (convert_eq_ok_iff.mp taken) single
      | _ => exact iff_of_true (alike trivial) trivial
  | bool _ | int _ | string _ | uuid _ => exact iff_of_true (alike trivial) trivial

end Agreement

/-- Just above `2 ^ 53` the last place is two, and a number still has all of its digits written. -/
theorem Scalar.keptAs_of_last_place_two
    : let x : Finite := ⟨false, 4503599627370497, 1, by decide⟩
      (Scalar.float (.finite x)).toJson = .ok (.number "9007199254740994.0")
      ∧ (Scalar.float (.finite x)).coerce .int64 = .ok (.int64 9007199254740994)
      ∧ (Scalar.json (.number "9007199254740994.0")).coerce .int64
        = .ok (.int64 9007199254740994)
      ∧ (Scalar.float (.finite x)).KeptAs .int64 := by
  intro x
  have text : x.jsonText = "9007199254740994.0" := by decide +kernel
  have written : (Scalar.float (.finite x)).toJson = .ok (.number "9007199254740994.0") := by
    rw [Scalar.toJson, text]
  have rounded : (Binary64.finite x).toInt64? = some 9007199254740994 := by decide +kernel
  have taken : (Scalar.float (.finite x)).coerce .int64 = .ok (.int64 9007199254740994) := by
    rw [Scalar.coerce, Scalar.convert_eq_ok_iff, Scalar.toValue?, Scalar.toInt64?, rounded]
    · rfl
    · simp
  have read
      : (Scalar.json (.number "9007199254740994.0")).coerce .int64
        = .ok (.int64 9007199254740994) := by
    rfl
  refine ⟨written, taken, read, ?_⟩
  exact (Scalar.coerce_equals_iff_keptAs (by simp) written taken read).mp (by simp [Value.equals])

/-- Above `2 ^ 54` the last place is four, and two numbers next to each other differ in a digit that
is written as zero.
-/
theorem Scalar.coerce_int64_of_lost_digit
    : let x : Finite := ⟨false, 4503599627370498, 2, by decide⟩
      (Scalar.float (.finite x)).toJson = .ok (.number "1.801439850948199e+16")
      ∧ (Scalar.float (.finite x)).coerce .int64 = .ok (.int64 18014398509481992)
      ∧ (Scalar.json (.number "1.801439850948199e+16")).coerce .int64
        = .ok (.int64 18014398509481990)
      ∧ (Value.int64 18014398509481992).equals (.int64 18014398509481990) = false := by
  intro x
  have text : x.jsonText = "1.801439850948199e+16" := by decide +kernel
  have rounded : (Binary64.finite x).toInt64? = some 18014398509481992 := by decide +kernel
  have taken : (Scalar.float (.finite x)).coerce .int64 = .ok (.int64 18014398509481992) := by
    rw [Scalar.coerce, Scalar.convert_eq_ok_iff, Scalar.toValue?, Scalar.toInt64?, rounded]
    · rfl
    · simp
  exact ⟨by rw [Scalar.toJson, text], taken, rfl, rfl⟩

end RecordFilter
