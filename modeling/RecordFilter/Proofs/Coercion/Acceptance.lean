import RecordFilter.Proofs.Binary64.Range
import RecordFilter.Proofs.Coercion.Written

/-! Which constants take the types that their written forms take. All do but one kind: the text of a
decimal number, an instant or an identifier may name a member of an enumeration, and the constant
itself names none.
-/

namespace RecordFilter

open RecordFilter.Binary64 (Finite)

namespace Binary64.Finite

variable {x : Finite}

/-- A number lies in the range of the 64-bit integers where the one that is written for it does, as
both lie on the same side of each power of two.
-/
theorem value_range_of_written (below : -(2 ^ 63 : ℚ) ≤ x.written) (above : x.written < 2 ^ 63)
    : -(2 ^ 63 : ℚ) ≤ x.value ∧ x.value < 2 ^ 63 := by
  have nonneg := x.size_nonneg
  rw [Finite.written, signedBy] at below above
  rw [Finite.value, signedBy]
  split at below
  next negative =>
    have small : x.size ≤ 2 ^ 63 := by
      by_contra large
      have := lt_writtenSize (lt_of_not_ge large)
      linarith
    rw [if_pos negative]
    constructor <;> linarith
  next positive =>
    rw [if_neg positive] at above
    have small : x.size < 2 ^ 63 := by
      by_contra large
      have := two_pow_63_lt_writtenSize (not_lt.mp large)
      linarith
    rw [if_neg positive]
    constructor <;> linarith

/-- A number whose text is read as a 64-bit integer rounds to one. -/
theorem exists_int64?_nearestInt {k : Int64} (read : Json.wholeNumber? x.jsonText = some k)
    : ∃ n, Integer.int64? x.nearestInt = some n := by
  rcases Int.lt_or_le x.exponent 0 with fine | coarse
  · exact ⟨k, by rw [toInt_of_fraction fine read, Integer.int64?_toInt]⟩
  · have whole := isWhole_of_nonneg coarse
    have range : -(2 ^ 63 : ℚ) ≤ x.nearestInt ∧ (x.nearestInt : ℚ) < 2 ^ 63 := by
      rw [nearestInt_of_isWhole whole]
      apply value_range_of_written
      · rw [← toInt_of_isWhole whole read]
        exact_mod_cast k.le_toInt
      · rw [← toInt_of_isWhole whole read]
        exact_mod_cast k.toInt_lt
    simp only [Integer.int64?_eq_some_iff, Integer.exists_int64_iff]
    exact_mod_cast range

/-- A number whose text is read as a 32-bit integer rounds to this one. -/
theorem nearestInt_of_int32 {k : Int64} {i : Int32}
    (read : Json.wholeNumber? x.jsonText = some k) (narrow : i.toInt = k.toInt)
    : x.nearestInt = k.toInt := by
  refine (nearestInt_eq_iff read).mpr fun whole => written_eq_value whole (exponent_nonpos ?_)
  have written : |(k.toInt : ℚ)| = x.writtenSize := by
    rw [toInt_of_isWhole whole read, abs_written]
  have small : |(k.toInt : ℚ)| ≤ 2 ^ 31 := by
    rw [← narrow]
    exact Integer.abs_toInt_le i
  by_contra large
  have : (2 : ℚ) ^ 31 < x.writtenSize := lt_writtenSize (by linarith)
  linarith

end Binary64.Finite

/-- A number whose text is read as a decimal number converts to one. -/
theorem Decimal.exists_ofFinite?_of_ofText? {x : Finite} {d : Decimal}
    (read : ofText? x.jsonText = some d)
    : ∃ d', ofFinite? x = some d' := by
  refine exists_ofFinite? ?_
  by_contra large
  have large := not_lt.mp large
  have whole : x.IsWhole := by
    have := Finite.exponent_of_le large
    exact Finite.isWhole_of_nonneg (by omega)
  have small := d.abs_value_lt
  rw [Finite.value_of_ofText? whole read, x.abs_written] at small
  linarith [Finite.two_pow_96_lt_writtenSize large]

/-- The text of an identifier is no instant. -/
theorem Timestamp.ofText?_uuid (u : Uuid) : ofText? u.text = none := by
  have text : u.text.toList = u.chars := String.toList_ofList
  refine ofText?_eq_none ?_ fun c hc => ?_
  · rw [text, Uuid.trimChars_of_ofChars? u.ofChars?_chars]
  · have digit := u.hexDigit?_isSome_of_mem_take (text ▸ hc)
    refine ⟨?_, ?_, Uuid.isBlank_of_hexDigit? digit⟩ <;>
    · rintro rfl
      cases digit

/-- The text of an instant is no identifier, since it ends in a letter that is no digit. -/
theorem Uuid.ofChars?_timestamp (t : Timestamp) : ofChars? t.text.toList = none := by
  have last : t.text.toList.getLast? = some 'Z' := by
    rw [Timestamp.text, String.toList_ofList, Timestamp.chars, List.getLast?_append]
    rfl
  cases read : ofChars? t.text.toList with
  | none => rfl
  | some u =>
      rcases getLast?_of_ofChars? read 'Z' last with digit | brace
      · cases digit
      · cases brace

namespace Scalar

variable {x : Finite} {type : FieldType} {result : Value}

/-- A constant that can be no member of an enumeration as it is, but may be one as it is written. -/
def isMemberInWriting : Scalar → FieldType → Bool
  | .decimal _, .enum _ | .timestamp _, .enum _ | .uuid _, .enum _ => true
  | _, _ => false

theorem toValue?_of_isMemberInWriting {scalar : Scalar}
    (inWriting : scalar.isMemberInWriting type = true)
    : scalar.toValue? type = none := by
  unfold isMemberInWriting at inWriting
  split at inWriting
  next => rfl
  next => rfl
  next => rfl
  next => cases inWriting

theorem exists_toValue?_int {n : Int64}
    (read : (Json.number (toString n.toInt)).toValue? type = some result)
    : ∃ value, (Scalar.int n).toValue? type = some value := by
  cases type with
  | int32 =>
      rw [Json.toValue?, Json.wholeNumber?_toString] at read
      exact ⟨_, read⟩
  | enum members =>
      rw [Json.toValue?, Integer.int64OfChars?_toString] at read
      exact ⟨_, read⟩
  | int64 | float64 | decimal => exact ⟨_, rfl⟩
  | bool | string | timestamp | uuid | array element => cases read

/-- A floating point number takes the types that its text takes, by cases on the type. -/
theorem exists_toValue?_float (read : (Json.number x.jsonText).toValue? type = some result)
    : ∃ value, (Scalar.float (.finite x)).toValue? type = some value := by
  cases type with
  | int32 =>
      obtain ⟨i, narrowed, rfl⟩ := Option.map_eq_some_iff.mp read
      obtain ⟨k, whole, narrow⟩ := Option.bind_eq_some_iff.mp narrowed
      have same := Finite.nearestInt_of_int32 whole (Integer.int32?_eq_some_iff.mp narrow)
      have rounded : (Scalar.float (.finite x)).toInt64? = some k :=
        Integer.int64?_eq_some_iff.mpr same.symm
      exact ⟨_, by rw [toValue?, rounded, Option.bind_some, narrow]; rfl⟩
  | int64 =>
      obtain ⟨k, whole, rfl⟩ := Option.map_eq_some_iff.mp read
      obtain ⟨n, rounded⟩ := Finite.exists_int64?_nearestInt whole
      have rounded : (Scalar.float (.finite x)).toInt64? = some n := rounded
      exact ⟨_, by rw [toValue?, rounded]; rfl⟩
  | float64 => exact ⟨_, rfl⟩
  | decimal =>
      obtain ⟨d, taken, rfl⟩ := Option.map_eq_some_iff.mp read
      obtain ⟨d', converted⟩ := Decimal.exists_ofFinite?_of_ofText? taken
      have converted : (Scalar.float (.finite x)).toDecimal? = some d' := converted
      exact ⟨_, by rw [toValue?, converted]; rfl⟩
  | enum members =>
      -- A point or an exponent stands in the text, so that it writes no number of a member.
      have noInteger : Integer.int64OfChars? x.jsonText.toList = none := by
        rcases x.mem_jsonText with point | mark
        · exact Integer.int64OfChars?_eq_none point rfl (by decide)
        · exact Integer.int64OfChars?_eq_none mark rfl (by decide)
      rw [Json.toValue?, noInteger] at read
      cases read
  | bool | string | timestamp | uuid | array element => cases read

theorem exists_toValue?_decimal {d : Decimal}
    (read : (Json.number d.text).toValue? type = some result)
    (named : (Scalar.decimal d).isMemberInWriting type = false)
    : ∃ value, (Scalar.decimal d).toValue? type = some value := by
  cases type with
  | int32 =>
      obtain ⟨i, narrowed, rfl⟩ := Option.map_eq_some_iff.mp read
      obtain ⟨k, whole, narrow⟩ := Option.bind_eq_some_iff.mp narrowed
      exact ⟨_, by rw [toValue?, toInt64?_of_wholeNumber? whole, Option.bind_some, narrow]; rfl⟩
  | int64 =>
      obtain ⟨k, whole, rfl⟩ := Option.map_eq_some_iff.mp read
      exact ⟨_, by rw [toValue?, toInt64?_of_wholeNumber? whole]; rfl⟩
  | float64 | decimal => exact ⟨_, rfl⟩
  | enum members => cases named
  | bool | string | timestamp | uuid | array element => cases read

theorem exists_toValue?_timestamp {t : Timestamp}
    (read : (Json.string t.text).toValue? type = some result)
    (named : (Scalar.timestamp t).isMemberInWriting type = false)
    : ∃ value, (Scalar.timestamp t).toValue? type = some value := by
  cases type with
  | string | timestamp => exact ⟨_, rfl⟩
  | uuid =>
      rw [Json.toValue?, Uuid.ofChars?_timestamp] at read
      cases read
  | enum members => cases named
  | bool | int32 | int64 | float64 | decimal | array element => cases read

theorem exists_toValue?_uuid {u : Uuid}
    (read : (Json.string u.text).toValue? type = some result)
    (named : (Scalar.uuid u).isMemberInWriting type = false)
    : ∃ value, (Scalar.uuid u).toValue? type = some value := by
  cases type with
  | string | uuid => exact ⟨_, rfl⟩
  | timestamp =>
      rw [Json.toValue?, Timestamp.ofText?_uuid] at read
      cases read
  | enum members => cases named
  | bool | int32 | int64 | float64 | decimal | array element => cases read

theorem exists_toValue?_bool {b : Bool} (read : (Json.bool b).toValue? type = some result)
    : ∃ value, (Scalar.bool b).toValue? type = some value := by
  cases type with
  | bool => exact ⟨_, rfl⟩
  | int32 | int64 | float64 | decimal | string | timestamp | uuid | enum members
  | array element => cases read

/-- Where the written form of a native constant stands for a value, the constant does so unless only
that form can be a member of an enumeration; by cases on the constant.
-/
theorem exists_toValue?_iff {scalar : Scalar} {json : Json}
    (native : ∀ document, scalar ≠ .json document) (written : scalar.toJson = .ok json)
    (read : json.toValue? type = some result)
    : (∃ value, scalar.toValue? type = some value) ↔ scalar.isMemberInWriting type = false := by
  constructor
  · intro ⟨value, taken⟩
    cases inWriting : scalar.isMemberInWriting type with
    | false => rfl
    | true =>
        rw [toValue?_of_isMemberInWriting inWriting] at taken
        cases taken
  · intro named
    cases scalar with
    | json document => exact absurd rfl (native document)
    | float y =>
        cases y <;> cases written
        exact exists_toValue?_float read
    | bool b =>
        cases written
        exact exists_toValue?_bool read
    | int n =>
        cases written
        exact exists_toValue?_int read
    | decimal d =>
        cases written
        exact exists_toValue?_decimal read named
    | string text =>
        cases written
        exact ⟨result, toValue?_string_of_json read⟩
    | timestamp t =>
        cases written
        exact exists_toValue?_timestamp read named
    | uuid u =>
        cases written
        exact exists_toValue?_uuid read named

/-- A native constant is written as a single value. -/
theorem ne_array_of_toJson {scalar : Scalar} {json : Json} (written : scalar.toJson = .ok json)
    (native : ∀ document, scalar ≠ .json document)
    : json ≠ .null ∧ ∀ items, json ≠ .array items := by
  cases scalar with
  | json document => exact absurd rfl (native document)
  | float y =>
      cases y <;> cases written
      simp
  | bool _ | int _ | decimal _ | string _ | timestamp _ | uuid _ =>
      cases written
      simp

/-- Where its written form takes a type, a constant takes it unless only that form can be a member
of an enumeration.
-/
theorem exists_coerce_iff {scalar : Scalar} {json : Json} (written : scalar.toJson = .ok json)
    (read : (Scalar.json json).coerce type = .ok result)
    : (∃ value, scalar.coerce type = .ok value) ↔ scalar.isMemberInWriting type = false := by
  by_cases document : ∃ document, scalar = .json document
  · obtain ⟨document, rfl⟩ := document
    cases written
    exact iff_of_true ⟨_, read⟩ rfl
  · have native (document' : Json) : scalar ≠ .json document' := fun same =>
      document ⟨document', same⟩
    obtain ⟨notNull, single⟩ := ne_array_of_toJson written native
    rw [coerce, Json.convert_eq_ok_iff notNull single] at read
    have outside : scalar.coerce type = scalar.convert type := by
      cases scalar with
      | json document' => exact absurd rfl (native document')
      | _ => rfl
    simp only [outside, convert_eq_ok_iff]
    exact exists_toValue?_iff native written read

end Scalar

end RecordFilter
