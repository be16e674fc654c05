import RecordFilter.Matrix.Document.Writing
import RecordFilter.Proofs.Binary64.Text
import RecordFilter.Proofs.Coercion.Numbers
import RecordFilter.Proofs.Decimal.Numeral
import RecordFilter.Proofs.Timestamp.Text
import RecordFilter.Proofs.Uuid

/-! Constants and what documents make of them. Where a constant and its written form both take a
type, no test tells the two values apart. Numbers that are rounded on two different ways are left
out, and so are instants whose second is shown as the next one.
-/

namespace RecordFilter

/-- Values that no test tells apart. -/
structure Value.Alike (left right : Value) : Prop where
  equals_left : ∀ value : Value, left.equals value = right.equals value
  equals_right : ∀ value : Value, value.equals left = value.equals right
  compare_right : ∀ value : Value, value.compare? left = value.compare? right
  string : left.string? = right.string?

namespace Value.Alike

theorem refl (value : Value) : value.Alike value :=
  ⟨fun _ => rfl, fun _ => rfl, fun _ => rfl, rfl⟩

theorem of_eq {left right : Value} (h : left = right) : left.Alike right :=
  h ▸ refl left

/-- Decimal numbers are told apart by their value only. -/
theorem decimal {left right : Decimal} (h : left.grid = right.grid)
    : (Value.decimal left).Alike (.decimal right) where
  equals_left value := by cases value <;> simp [equals, Decimal.equals, h]
  equals_right value := by cases value <;> simp [equals, Decimal.equals, h]
  compare_right value := by cases value <;> simp [Value.compare?, Decimal.compare, h]
  string := rfl

end Value.Alike

namespace Json

theorem wholeNumber?_toString (n : Int64) : wholeNumber? (toString n.toInt) = some n := by
  rw [wholeNumber?, Integer.int64OfChars?_toString, Option.some_or]

/-- The text of a decimal number is read as a whole number when the number is one. -/
theorem wholeNumber?_text (d : Decimal)
    : wholeNumber? d.text = d.wholeInt?.bind Integer.int64? := by
  rw [← Decimal.text_numeral, wholeNumber?_eq, Decimal.text_numeral, Decimal.ofText?_text,
    Option.bind_some, Decimal.wholeInt?_unsignedZero]

theorem finiteNumber?_toString {n : Int} {x : Binary64}
    (h : finiteNumber? (toString n) = some x)
    : x = Binary64.ofInt n := by
  rw [finiteNumber?, Binary64.ofChars?_toString, Option.filter_eq_some_iff] at h
  exact (Option.some.inj h.1).symm

end Json

section Agreement

variable {type : FieldType} {value result : Value}

/-- An integer and its digits stand for the same value, by cases on the type. -/
theorem Scalar.toValue?_int_agrees {n : Int64} (native : (Scalar.int n).toValue? type = some value)
    (read : (Json.number (toString n.toInt)).toValue? type = some result)
    : value = result := by
  cases type with
  | int32 =>
      rw [Json.toValue?, Json.wholeNumber?_toString] at read
      exact Option.some.inj (native.symm.trans read)
  | int64 =>
      rw [Json.toValue?, Json.wholeNumber?_toString] at read
      exact Option.some.inj (native.symm.trans read)
  | float64 =>
      rw [Json.toValue?, Option.map_eq_some_iff] at read
      obtain ⟨x, finite, rfl⟩ := read
      rw [Json.finiteNumber?_toString finite]
      exact (Option.some.inj native).symm
  | decimal =>
      rw [Json.toValue?, Decimal.ofText?_toString] at read
      exact Option.some.inj (native.symm.trans read)
  | enum members =>
      rw [Json.toValue?, Integer.int64OfChars?_toString] at read
      exact Option.some.inj (native.symm.trans read)
  | bool | string | timestamp | uuid | array element => cases read

/-- Outside of documents a number is rounded first, which leaves whole numbers as they are. -/
theorem Scalar.toInt64?_of_wholeNumber? {d : Decimal} {n : Int64}
    (whole : Json.wholeNumber? d.text = some n)
    : (Scalar.decimal d).toInt64? = some n := by
  rw [Json.wholeNumber?_text, Option.bind_eq_some_iff] at whole
  obtain ⟨k, hk, hn⟩ := whole
  rw [toInt64?, Decimal.nearestInt_of_wholeInt? hk, hn]

/-- A decimal number and its text stand for values that no test tells apart. -/
theorem Scalar.toValue?_decimal_agrees {d : Decimal} (exact : type ≠ .float64)
    (native : (Scalar.decimal d).toValue? type = some value)
    (read : (Json.number d.text).toValue? type = some result)
    : value.Alike result := by
  cases type with
  | int32 =>
      rw [Json.toValue?, Option.map_eq_some_iff] at read
      obtain ⟨k, hk, rfl⟩ := read
      obtain ⟨n, hn, hk⟩ := Option.bind_eq_some_iff.mp hk
      rw [toValue?, toInt64?_of_wholeNumber? hn, Option.bind_some, hk] at native
      exact .of_eq (Option.some.inj native).symm
  | int64 =>
      rw [Json.toValue?, Option.map_eq_some_iff] at read
      obtain ⟨n, hn, rfl⟩ := read
      rw [toValue?, toInt64?_of_wholeNumber? hn] at native
      exact .of_eq (Option.some.inj native).symm
  | decimal =>
      rw [Json.toValue?, Decimal.ofText?_text] at read
      cases native
      cases read
      exact .decimal d.grid_unsignedZero.symm
  | float64 => exact absurd rfl exact
  | enum members => cases native
  | bool | string | timestamp | uuid | array element => cases read

/-- What a document's text stands for, the same text stands for outside of documents, where blanks
around it do not count.
-/
theorem Scalar.toValue?_string_of_json {text : String}
    (read : (Json.string text).toValue? type = some value)
    : (Scalar.string text).toValue? type = some value := by
  cases type with
  | uuid =>
      rw [Json.toValue?, Option.map_eq_some_iff] at read
      obtain ⟨u, hu, rfl⟩ := read
      rw [toValue?, toUuid?, Uuid.trimChars_of_ofChars? hu, hu]
      rfl
  | string | timestamp | enum members => exact read
  | bool | int32 | int64 | float64 | decimal | array element => cases read

/-- A type of instants takes the text of an instant for the one that it shows, and a type of strings
takes it for the text itself.
-/
theorem Scalar.toValue?_timestamp_agrees {t : Timestamp}
    (settled : type = .timestamp → ¬t.Overruns)
    (native : (Scalar.timestamp t).toValue? type = some value)
    (read : (Scalar.string t.text).toValue? type = some result)
    : value = result := by
  cases type with
  | timestamp =>
      rw [toValue?, toTimestamp?, Option.map_eq_some_iff] at read
      obtain ⟨u, again, rfl⟩ := read
      cases native
      rw [t.eq_shown_of_ofText? again, t.shown_eq_self_iff.mpr (settled rfl)]
  | string => exact Option.some.inj (native.symm.trans read)
  | bool | int32 | int64 | float64 | decimal | uuid | enum members | array element => cases native

theorem Scalar.toValue?_uuid_agrees {u : Uuid}
    (native : (Scalar.uuid u).toValue? type = some value)
    (read : (Scalar.string u.text).toValue? type = some result)
    : value = result := by
  have text : u.text.toList = u.chars := String.toList_ofList
  cases type with
  | uuid =>
      rw [toValue?, toUuid?, text, Uuid.trimChars_of_ofChars? u.ofChars?_chars, u.ofChars?_chars]
        at read
      exact Option.some.inj (native.symm.trans read)
  | string => exact Option.some.inj (native.symm.trans read)
  | bool | int32 | int64 | float64 | decimal | timestamp | enum members | array element =>
      cases native

end Agreement

namespace Scalar

/-- A document gives the constant to the type as it is. Floating point numbers may be rounded on the
way, decimal numbers where they become floating point numbers, and an instant is another one where
its second is shown as the next.
-/
def ExactFor : Scalar → FieldType → Prop
  | .float _, _ => False
  | .decimal _, .float64 => False
  | .timestamp t, .timestamp => ¬t.Overruns
  | _, _ => True

variable {scalar : Scalar} {type : FieldType} {value result : Value}

/-- A constant that is written as text, and the same text outside of documents, stand for the same
value.
-/
theorem coerce_eq_of_string {text : String} (written : scalar.toJson = .ok (.string text))
    (exact : scalar.ExactFor type)
    (native : scalar.coerce type = .ok value)
    (read : (Scalar.string text).convert type = .ok result)
    : value = result := by
  rw [convert_eq_ok_iff] at read
  cases scalar with
  | string text' =>
      cases written
      exact Option.some.inj ((convert_eq_ok_iff.mp native).symm.trans read)
  | timestamp t =>
      cases written
      have settled : type = .timestamp → ¬t.Overruns := by
        rintro rfl
        exact exact
      exact toValue?_timestamp_agrees settled (convert_eq_ok_iff.mp native) read
  | uuid u =>
      cases written
      exact toValue?_uuid_agrees (convert_eq_ok_iff.mp native) read
  | json json =>
      cases written
      rw [coerce, Json.convert_eq_ok_iff (by simp) (by simp)] at native
      exact Option.some.inj ((toValue?_string_of_json native).symm.trans read)
  | float x => cases x <;> cases written
  | bool _ | int _ | decimal _ => cases written

/-- No test tells a constant from its written form where both take a type and documents give the
constant to the type as it is, by cases on the constant.
-/
theorem coerce_alike_of_toJson {json : Json} (written : scalar.toJson = .ok json)
    (exact : scalar.ExactFor type)
    (native : scalar.coerce type = .ok value) (read : (Scalar.json json).coerce type = .ok result)
    : value.Alike result := by
  have ofText {text : String} (written : scalar.toJson = .ok (.string text))
      (read : (Scalar.json (.string text)).coerce type = .ok result)
      : value.Alike result := by
    rw [coerce, Json.convert_eq_ok_iff (by simp) (by simp)] at read
    have outside := convert_eq_ok_iff.mpr (toValue?_string_of_json read)
    exact .of_eq (coerce_eq_of_string written exact native outside)
  cases scalar with
  | bool b =>
      cases written
      rw [coerce, Json.convert_eq_ok_iff (by simp) (by simp)] at read
      cases type <;> cases read
      cases native
      exact .refl _
  | int n =>
      cases written
      rw [coerce, Json.convert_eq_ok_iff (by simp) (by simp)] at read
      exact .of_eq (toValue?_int_agrees (convert_eq_ok_iff.mp native) read)
  | decimal d =>
      cases written
      rw [coerce, Json.convert_eq_ok_iff (by simp) (by simp)] at read
      have unrounded : type ≠ .float64 := by
        rintro rfl
        exact exact
      exact toValue?_decimal_agrees unrounded (convert_eq_ok_iff.mp native) read
  | json json' =>
      cases written
      exact .of_eq (Except.ok.inj (native.symm.trans read))
  | float x => exact exact.elim
  | string _ | timestamp _ | uuid _ =>
      cases written
      exact ofText rfl read

end Scalar

end RecordFilter
