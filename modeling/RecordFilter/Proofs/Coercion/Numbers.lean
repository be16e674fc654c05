import RecordFilter.Proofs.Coercion.Basic
import RecordFilter.Proofs.Decimal.Exactness

/-! Numbers of documents as values of the types whose numbers are exact. A number that takes such a
type keeps its value exactly when a decimal number can hold it and the number in front of its
exponent.
-/

namespace RecordFilter

open RecordFilter.Text
open RecordFilter.Json (Numeral)

/-- The exact number that a value of an integer or a decimal type is. -/
def Value.number? : Value → Option ℚ
  | .int32 n => some n.toInt
  | .int64 n => some n.toInt
  | .decimal d => some d.value
  | _ => none

/-- The types whose numbers are taken as they are written, digit by digit. -/
def FieldType.isExact : FieldType → Bool
  | .int32 | .int64 | .decimal => true
  | _ => false

namespace Json

variable {n : Numeral} {k : Int64}

/-- The number is written with digits alone and a sign, if it has one. -/
def Numeral.IsBare (n : Numeral) : Prop :=
  n.places = [] ∧ n.exponent? = none

theorem Numeral.chars_eq_minus_append (n : Numeral)
    : n.chars
      = minus n.negative ++ (n.whole ++ Decimal.fraction n.places ++ exponentChars n.exponent?) :=
  List.append_assoc _ _ _

/-- What follows the sign begins with a digit. -/
theorem Numeral.isDigit_of_mem_head? (n : Numeral)
    : ∀ c ∈ (n.whole ++ Decimal.fraction n.places ++ exponentChars n.exponent?).head?,
        isDigit c = true := by
  intro c hc
  obtain ⟨digit, rest, same⟩ := List.exists_cons_of_ne_nil n.whole_ne_nil
  rw [same, List.cons_append, List.cons_append, List.head?_cons, Option.mem_some_iff] at hc
  exact n.isDigit_of_mem_whole c (same ▸ hc ▸ List.mem_cons_self)

/-- Neither a point nor an exponent mark is part of an integer. -/
theorem Numeral.isBare_of_int64OfChars? (h : Integer.int64OfChars? n.chars = some k)
    : n.IsBare := by
  rw [Integer.int64OfChars?, chars_eq_minus_append,
    Integer.ofChars?_minus_append _ n.isDigit_of_mem_head?] at h
  obtain ⟨i, read, _⟩ := Option.bind_eq_some_iff.mp h
  obtain ⟨m, natural, _⟩ := Option.map_eq_some_iff.mp read
  have digits := (natural?_eq_some_iff.mp natural).2.1
  constructor
  · cases places : n.places with
    | nil => rfl
    | cons c rest => exact absurd (digits '.' (by simp [places, Decimal.fraction])) (by decide)
  · cases part : n.exponent? with
    | none => rfl
    | some part' => exact absurd (digits 'e' (by simp [part, exponentChars])) (by decide)

/-- Bare digits are read as the integer that they write, if it is in the range. -/
theorem Numeral.IsBare.exists_int (bare : n.IsBare)
    : ∃ i : Int, n.value = i ∧ Integer.int64OfChars? n.chars = Integer.int64? i := by
  obtain ⟨noPlaces, noExponent⟩ := bare
  have size : n.size = (digitsValue n.whole : ℚ) := by
    simp [size, mantissa, exponent, noPlaces, noExponent]
  have alone : n.whole ++ Decimal.fraction n.places ++ exponentChars n.exponent? = n.whole := by
    simp [noPlaces, noExponent, Decimal.fraction, exponentChars]
  refine
    ⟨if n.negative then -(digitsValue n.whole : Int) else digitsValue n.whole, ?_, ?_⟩
  · rw [value, size, signedBy]
    split <;> simp
  · rw [Integer.int64OfChars?, chars_eq_minus_append,
      Integer.ofChars?_minus_append _ n.isDigit_of_mem_head?, alone,
      natural?_eq_some n.whole_ne_nil n.isDigit_of_mem_whole]
    rfl

/-- An integer is read from its digits alone. -/
theorem Numeral.int64OfChars?_eq_some_iff
    : Integer.int64OfChars? n.chars = some k ↔ n.IsBare ∧ n.value = k.toInt := by
  constructor
  · intro read
    have bare := isBare_of_int64OfChars? read
    obtain ⟨i, value, same⟩ := bare.exists_int
    rw [same, Integer.int64?_eq_some_iff] at read
    exact ⟨bare, by rw [value, read]⟩
  · rintro ⟨bare, value⟩
    obtain ⟨i, value', same⟩ := bare.exists_int
    rw [same, Integer.int64?_eq_some_iff]
    exact_mod_cast (value.symm.trans value')

theorem Numeral.toList_text (n : Numeral) : n.text.toList = n.chars :=
  String.toList_ofList

/-- Digits alone are also read as a decimal number, so that these decide about whole numbers. -/
theorem wholeNumber?_eq (n : Numeral)
    : wholeNumber? n.text
      = ((Decimal.ofText? n.text).bind Decimal.wholeInt?).bind Integer.int64? := by
  rw [wholeNumber?]
  cases plain : Integer.int64OfChars? n.text.toList with
  | none => rw [Option.none_or]
  | some k =>
      rw [Numeral.toList_text, Numeral.int64OfChars?_eq_some_iff] at plain
      obtain ⟨⟨_, noExponent⟩, number⟩ := plain
      have base : n.base.value = k.toInt := by
        rw [← number, n.value_eq_base_mul, Numeral.exponent, noExponent, zpow_zero, mul_one]
      obtain ⟨d, read, same⟩ := Decimal.plain?_base_of_holds
        ⟨Decimal.ofInt64 k, (Decimal.value_ofInt64 k).trans base.symm⟩
      have whole : d.wholeInt? = some k.toInt :=
        Decimal.wholeInt?_eq_some_iff.mpr (same.trans base)
      rw [Option.some_or, Decimal.ofText?_text_of_no_exponent noExponent, read, Option.bind_some,
        whole, Option.bind_some, Integer.int64?_toInt]

/-- A text is taken for a whole number when the decimal number that it is read as is this one. -/
theorem wholeNumber?_eq_some_iff
    : wholeNumber? n.text = some k ↔ ∃ d, Decimal.ofText? n.text = some d ∧ d.value = k.toInt := by
  simp only [wholeNumber?_eq, Option.bind_eq_some_iff, Integer.int64?_eq_some_iff,
    Decimal.wholeInt?_eq_some_iff]
  constructor
  · rintro ⟨_, ⟨d, read, whole⟩, rfl⟩
    exact ⟨d, read, whole⟩
  · rintro ⟨d, read, whole⟩
    exact ⟨_, ⟨d, read, whole⟩, rfl⟩

/-- A whole number that is read has the value of the text exactly when a decimal number can hold
that value and the one in front of the exponent.
-/
theorem toInt_of_wholeNumber?_iff (read : wholeNumber? n.text = some k)
    : (k.toInt : ℚ) = n.value ↔ Decimal.Holds n.base.value ∧ Decimal.Holds n.value := by
  obtain ⟨d, decimal, same⟩ := wholeNumber?_eq_some_iff.mp read
  rw [← Decimal.value_of_ofText?_iff decimal, same]

/-- A whole number that is read counts the units of the decimal number nearest to the text's. -/
theorem grid_of_wholeNumber? (base : Decimal.Holds n.base.value)
    (read : wholeNumber? n.text = some k)
    : Decimal.nearestGrid n.value = k.toInt * 10 ^ 28 := by
  obtain ⟨d, decimal, same⟩ := wholeNumber?_eq_some_iff.mp read
  rw [← Decimal.grid_of_ofText? base decimal, ← Decimal.nearestGrid_value, same,
    Decimal.nearestGrid_intCast]

end Json

/-- A number of a document that takes an integer or a decimal type is the number that its text
denotes exactly when a decimal number can hold this number and the one in front of its exponent.
-/
theorem Scalar.number?_of_coerce_iff {n : Numeral} {type : FieldType} {value : Value}
    (exact : type.isExact = true)
    (taken : (Scalar.json (.number n.text)).coerce type = .ok value)
    : value.number? = some n.value ↔ Decimal.Holds n.base.value ∧ Decimal.Holds n.value := by
  rw [coerce, Json.convert_eq_ok_iff (by simp) (by simp)] at taken
  cases type with
  | int32 =>
      obtain ⟨k, narrowed, rfl⟩ := Option.map_eq_some_iff.mp taken
      obtain ⟨k', read, narrow⟩ := Option.bind_eq_some_iff.mp narrowed
      rw [Value.number?, Option.some_inj, Integer.int32?_eq_some_iff.mp narrow,
        Json.toInt_of_wholeNumber?_iff read]
  | int64 =>
      obtain ⟨k, read, rfl⟩ := Option.map_eq_some_iff.mp taken
      rw [Value.number?, Option.some_inj, Json.toInt_of_wholeNumber?_iff read]
  | decimal =>
      obtain ⟨d, read, rfl⟩ := Option.map_eq_some_iff.mp taken
      rw [Value.number?, Option.some_inj, Decimal.value_of_ofText?_iff read]
  | bool | float64 | string | timestamp | uuid | enum members | array element => cases exact

/-- The exponent uses up one of the two places, and the other one is a zero. -/
theorem Scalar.number?_of_coerce_iff_of_shifted_place
    : let n : Numeral :=
        {
          negative := true, whole := ['1'], places := ['5', '0'], exponent? := some (false, ['1'])
          whole_ne_nil := by decide
          zero_alone := by decide
          isDigit_of_mem_whole := by simp; decide
          isDigit_of_mem_places := by simp; decide
          exponent_ne_nil := by simp
          isDigit_of_mem_exponent := by simp; decide
        }
      n.text = "-1.50e+1"
      ∧ (Scalar.json (.number n.text)).coerce .int32 = .ok (.int32 (-15))
      ∧ (Value.int32 (-15)).number? = some n.value := by
  intro n
  have text : n.text = "-1.50e+1" := rfl
  have taken : (Scalar.json (.number n.text)).coerce .int32 = .ok (.int32 (-15)) := by
    rw [text]
    rfl
  have mantissa : n.mantissa = 150 := rfl
  have base : n.base.value = (⟨true, 150, 2, by decide, by decide⟩ : Decimal).value := by
    rw [Numeral.value, Numeral.size_base, mantissa]
    rfl
  have whole : n.value = (⟨true, 150, 1, by decide, by decide⟩ : Decimal).value := by
    have exponent : n.exponent = 1 := rfl
    rw [n.value_eq_base_mul, base, exponent]
    norm_num [Decimal.value, Decimal.size, signedBy]
  exact ⟨text, taken, (number?_of_coerce_iff rfl taken).mpr ⟨⟨_, base.symm⟩, ⟨_, whole.symm⟩⟩⟩

/-- One more place than a decimal number can hold: the number is not whole and taken for one. -/
theorem Scalar.coerce_int64_of_lost_place
    : let n : Numeral :=
        {
          negative := false, whole := ['1'], places := List.replicate 28 '0' ++ ['1']
          exponent? := none
          whole_ne_nil := by decide
          zero_alone := by decide
          isDigit_of_mem_whole := by simp; decide
          isDigit_of_mem_places := by simp; decide
          exponent_ne_nil := by simp
          isDigit_of_mem_exponent := by simp
        }
      n.text = "1.00000000000000000000000000001"
      ∧ (Scalar.json (.number n.text)).coerce .int64 = .ok (.int64 1)
      ∧ (Value.int64 1).number? ≠ some n.value := by
  intro n
  have text : n.text = "1.00000000000000000000000000001" := rfl
  refine ⟨text, by rw [text]; rfl, ?_⟩
  have value : n.value = 100000000000000000000000000001 / 10 ^ 29 := by
    have base : n = n.base := rfl
    have mantissa : n.mantissa = 100000000000000000000000000001 := rfl
    rw [base, Numeral.value, Numeral.size_base, mantissa]
    rfl
  have one : (1 : Int64).toInt = 1 := rfl
  rw [value, Value.number?, one, ne_eq, Option.some_inj]
  norm_num

end RecordFilter
