import RecordFilter.Proofs.Coercion.Agreement
import RecordFilter.Proofs.Matrix.TextRoundTrip

/-! Decimal numbers and instants on the way through a document and back. A decimal number keeps its
value and its places; an instant is read back exactly when its year is written with four digits and
its second is not shown as the next one.
-/

namespace RecordFilter

/-- Whatever a native constant is written as is read back from its text. -/
theorem Scalar.parse_of_toJson {scalar : Scalar} {json : Json}
    (native : ∀ document, scalar ≠ .json document)
    (written : scalar.toJson = .ok json)
    : Json.parse json.indentedText = .ok json := by
  have formed : json.WellFormed := by
    refine wellFormed_of_toJson ?_ written
    cases scalar with
    | json document => exact absurd rfl (native document)
    | _ => trivial
  -- A single value holds no object and opens no container.
  have single : json.readBack? Json.nestingLimit = some json := by
    cases scalar with
    | json document => exact absurd rfl (native document)
    | float x =>
        cases x <;> cases written
        rfl
    | bool _ | int _ | decimal _ | string _ | timestamp _ | uuid _ =>
        cases written
        rfl
  rw [← toOption_eq_some_iff, formed.toOption_parse, single]

section Decimal

variable {value : Value}

/-- The text of a decimal number is taken for the number itself, up to the sign of a zero. -/
theorem Scalar.coerce_decimal_text (d : Decimal)
    : (Scalar.json (.number d.text)).coerce .decimal = .ok (.decimal d.unsignedZero) := by
  rw [coerce_number_eq_ok_iff, Json.toValue?, Decimal.ofText?_text]
  rfl

/-- The text of a decimal number is taken for a whole number exactly when its value is one. -/
theorem Scalar.coerce_int64_text_iff {d : Decimal}
    : (Scalar.json (.number d.text)).coerce .int64 = .ok value
      ↔ ∃ k : Int64, value = .int64 k ∧ d.value = k.toInt := by
  rw [coerce_number_eq_ok_iff, Json.toValue?, Json.wholeNumber?_text, Option.map_eq_some_iff]
  refine exists_congr fun k => ?_
  rw [Option.bind_eq_some_iff, eq_comm (a := value), and_comm]
  refine and_congr_right fun _ => ?_
  constructor
  · rintro ⟨i, whole, narrow⟩
    rw [Integer.int64?_eq_some_iff.mp narrow, Decimal.wholeInt?_eq_some_iff.mp whole]
  · intro same
    exact ⟨k.toInt, Decimal.wholeInt?_eq_some_iff.mpr same, Integer.int64?_toInt k⟩

/-- What the text of a decimal number is as a whole number, the decimal number is by itself. -/
theorem Scalar.coerce_int64_of_text {d : Decimal}
    (read : (Scalar.json (.number d.text)).coerce .int64 = .ok value)
    : (Scalar.decimal d).coerce .int64 = .ok value := by
  obtain ⟨k, whole, rfl⟩ := Option.map_eq_some_iff.mp (coerce_number_eq_ok_iff.mp read)
  have native : (Scalar.decimal d).toValue? .int64 = some (.int64 k) := by
    rw [toValue?, toInt64?_of_wholeNumber? whole]
    rfl
  exact convert_eq_ok_iff.mpr native

/-- A decimal number is written as a JSON number that is read back from the text of a document with
the same value and as many places. As a 64-bit integer this number is taken exactly when the decimal
number is one, and then both of them are this integer.
-/
theorem Scalar.decimal_survives_document (d : Decimal)
    : (Scalar.decimal d).toJson = .ok (.number d.text)
      ∧ Json.parse (Json.number d.text).indentedText = .ok (.number d.text)
      ∧ (∃ result : Decimal,
          (Scalar.json (.number d.text)).coerce .decimal = .ok (.decimal result)
          ∧ result.value = d.value
          ∧ result.scale = d.scale)
      ∧ ∀ value,
          ((Scalar.json (.number d.text)).coerce .int64 = .ok value
            ↔ ∃ k : Int64, value = .int64 k ∧ d.value = k.toInt)
          ∧ ((Scalar.json (.number d.text)).coerce .int64 = .ok value →
              (Scalar.decimal d).coerce .int64 = .ok value) := by
  have written : (Scalar.decimal d).toJson = .ok (.number d.text) := rfl
  have same : d.unsignedZero.value = d.value := Decimal.grid_eq_iff.mp d.grid_unsignedZero
  exact ⟨written, parse_of_toJson (by simp) written,
    ⟨d.unsignedZero, coerce_decimal_text d, same, rfl⟩,
    fun value => ⟨coerce_int64_text_iff, coerce_int64_of_text⟩⟩

end Decimal

section Timestamp

/-- Every text takes the type of instants by one reading of it, whether it comes from a document or
not.
-/
theorem Scalar.coerce_timestamp_of_text {scalar : Scalar} {text : String}
    (h : scalar = .string text ∨ scalar = .json (.string text))
    : scalar.coerce .timestamp
      = match Timestamp.ofText? text with
        | some t => .ok (.timestamp t)
        | none => .error (.valueConversion scalar .timestamp) := by
  rcases h with rfl | rfl
  · cases read : Timestamp.ofText? text <;> simp [coerce, convert, toValue?, toTimestamp?, read]
  · cases read : Timestamp.ofText? text <;>
      simp [coerce, Json.convert, Json.convertSingle, Json.convertScalar, Json.toValue?, read]

/-- The outcome for the text of an instant where an instant is asked for: the one that is shown if
its year is plain.
-/
def Timestamp.readBack (t : Timestamp) (scalar : Scalar) : Except Error Value :=
  if t.HasPlainYear then
    .ok (.timestamp t.shown)
  else
    .error (.valueConversion scalar .timestamp)

theorem Scalar.coerce_timestamp_text {scalar : Scalar} {t : Timestamp}
    (h : scalar = .string t.text ∨ scalar = .json (.string t.text))
    : scalar.coerce .timestamp = t.readBack scalar := by
  rw [coerce_timestamp_of_text h, t.ofText?_text, Timestamp.readBack]
  by_cases plain : t.HasPlainYear
  · rw [if_pos plain, if_pos plain]
  · rw [if_neg plain, if_neg plain]

/-- An instant is written as a string that is read back from the text of a document, and it becomes
the same text as a value of strings. By itself and in a document this text is taken for the instant
that it shows when the year has four digits and no sign, and for no instant otherwise; so the
instant itself comes back exactly if moreover its second does not run past its end, or is the last
of a minute.
-/
theorem Scalar.timestamp_read_back (t : Timestamp)
    : Timestamp.ofText? t.text = (if t.HasPlainYear then some t.shown else none)
      ∧ (Timestamp.ofText? t.text = some t ↔ t.HasPlainYear ∧ ¬t.Overruns)
      ∧ (Scalar.timestamp t).toJson = .ok (.string t.text)
      ∧ Json.parse (Json.string t.text).indentedText = .ok (.string t.text)
      ∧ (Scalar.timestamp t).coerce .timestamp = .ok (.timestamp t)
      ∧ (Scalar.json (.string t.text)).coerce .timestamp = t.readBack (.json (.string t.text))
      ∧ (Scalar.timestamp t).coerce .string = .ok (.string t.text)
      ∧ (Scalar.string t.text).coerce .timestamp = t.readBack (.string t.text) := by
  have written : (Scalar.timestamp t).toJson = .ok (.string t.text) := rfl
  exact ⟨t.ofText?_text, t.ofText?_text_eq_self_iff, written, parse_of_toJson (by simp) written,
    rfl, coerce_timestamp_text (.inr rfl), rfl, coerce_timestamp_text (.inl rfl)⟩

/-- A second that runs past its end in the middle of a minute is taken for the next one. -/
example
    : let date : Date := ⟨2024, 1, 1, by decide⟩
      let overrun : Timestamp := ⟨date, 12, 0, 0, 1500000000, by decide⟩
      overrun.text = "2024-01-01T12:00:01.500Z"
      ∧ Timestamp.ofText? overrun.text = some ⟨date, 12, 0, 1, 500000000, by decide⟩ :=
  ⟨by rfl, by rfl⟩

/-- The offset moves the instant into a year of five digits, whose text is taken for no instant. It
is taken for this one without the letter at its end.
-/
theorem Timestamp.ofText?_text_eq_none_of_offset
    : ∃ t : Timestamp,
        ofText? "9999-12-31T23:59:59-01:00" = some t
        ∧ t.text = "+10000-01-01T00:59:59Z"
        ∧ ofText? t.text = none
        ∧ ofText? "+10000-01-01T00:59:59" = some t := by
  refine ⟨⟨⟨10000, 1, 1, by decide⟩, 0, 59, 59, 0, by decide⟩, by rfl, by rfl, ?_, by rfl⟩
  rw [ofText?_text]
  rfl

end Timestamp

end RecordFilter
