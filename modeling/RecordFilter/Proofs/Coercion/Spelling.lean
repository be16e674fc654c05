import RecordFilter.Proofs.Coercion.Typing
import RecordFilter.Proofs.Coercion.Written
import RecordFilter.Proofs.Decimal.Spelling

/-! Spellings of one number as constants of a document. Types that count by exact numbers take all
spellings alike that are written in the way of the type: as digits alone for an enumeration, in
moderation for the others.
-/

namespace RecordFilter

open RecordFilter.Json (Numeral)

/-- The types that stand for exact numbers, by a number of their own or by one for each member. -/
def FieldType.isCounted : FieldType → Bool
  | .enum _ => true
  | type => type.isExact

/-- The exact number that a value is or that its member has. -/
def Value.count? : Value → Option ℚ
  | .enum v => some v.value.toInt
  | value => value.number?

/-- Some value of the type stands for this number. -/
def FieldType.HasNumber (type : FieldType) (q : ℚ) : Prop :=
  ∃ value : Value, value.HasType type ∧ value.count? = some q

/-- The number is written in the way that the type reads. -/
def Json.Numeral.SpelledFor (n : Numeral) : FieldType → Prop
  | .enum _ => n.IsBare
  | _ => n.IsModerate

/-- Coercions with the same outcome make values that are equal, or they both fail. -/
inductive Value.SameOutcome : Except Error Value → Except Error Value → Prop
  | value {left right : Value} (equal : left.equals right = true)
    : SameOutcome (.ok left) (.ok right)
  | error (left right : Error) : SameOutcome (.error left) (.error right)

theorem Value.SameOutcome.exists_of_ok {value : Value} {y : Except Error Value}
    (outcome : SameOutcome (.ok value) y)
    : ∃ other, y = .ok other ∧ value.equals other = true := by
  cases outcome with
  | value equal => exact ⟨_, rfl, equal⟩

theorem Value.SameOutcome.of_forall {x y : Except Error Value}
    (forth : ∀ value, x = .ok value → ∃ other, y = .ok other ∧ value.equals other = true)
    (back : ∀ other, y = .ok other → ∃ value, x = .ok value)
    : SameOutcome x y := by
  cases x with
  | ok value =>
      obtain ⟨other, rfl, equal⟩ := forth value rfl
      exact .value equal
  | error e =>
      cases y with
      | ok other =>
          obtain ⟨value, made⟩ := back other rfl
          cases made
      | error e' => exact .error e e'

/-- Equal values stand for one number, by cases on their kinds. -/
theorem Value.count?_eq_of_equals {left right : Value} (equal : left.equals right = true)
    : left.count? = right.count? := by
  cases left <;> cases right <;> simp [Value.equals] at equal
  case int32.int32 => rw [equal]
  case int64.int64 => rw [equal]
  case decimal.decimal => exact congrArg some (Decimal.equals_iff.mp equal)
  case enum.enum v w =>
    have same : v.value = w.value := by
      rw [EnumValue.equals, Bool.and_eq_true, beq_iff_eq] at equal
      exact equal.2
    rw [count?, count?, same]
  all_goals rfl

namespace Json

variable {n m : Numeral} {k : Int64} {type : FieldType} {value : Value}

/-- An integer is read from its moderate spellings only. -/
theorem wholeNumber?_iff_isModerate (number : n.value = k.toInt)
    : wholeNumber? n.text = some k ↔ n.IsModerate := by
  have holds : Decimal.Holds n.value :=
    ⟨Decimal.ofInt64 k, (Decimal.value_ofInt64 k).trans number.symm⟩
  rw [wholeNumber?_eq_some_iff, ← number, Decimal.exists_ofText?_iff]
  exact and_iff_right holds

section Alike

variable (same : n.value = m.value) (hn : n.IsModerate) (hm : m.IsModerate)

include same hn hm

/-- Moderate spellings of one number are read as equal decimal numbers, if they are read at all. -/
theorem exists_ofText?_of_moderate {d : Decimal} (read : Decimal.ofText? n.text = some d)
    : ∃ d', Decimal.ofText? m.text = some d' ∧ d.value = d'.value := by
  have alike
      : (Decimal.ofText? n.text).map Decimal.grid = (Decimal.ofText? m.text).map Decimal.grid := by
    rw [Decimal.map_grid_ofText? hn, Decimal.map_grid_ofText? hm, same]
  rw [read, Option.map_some] at alike
  obtain ⟨d', read', grid⟩ := Option.map_eq_some_iff.mp alike.symm
  exact ⟨d', read', Decimal.grid_eq_iff.mp grid.symm⟩

theorem wholeNumber?_of_moderate (read : wholeNumber? n.text = some k)
    : wholeNumber? m.text = some k := by
  obtain ⟨d, decimal, whole⟩ := wholeNumber?_eq_some_iff.mp read
  obtain ⟨d', decimal', equal⟩ := exists_ofText?_of_moderate same hn hm decimal
  exact wholeNumber?_eq_some_iff.mpr ⟨d', decimal', equal.symm.trans whole⟩

end Alike

section Taken

variable {text : String}

theorem toValue?_int32_iff
    : (number text).toValue? .int32 = some value
      ↔ ∃ (i : Int32) (k : Int64),
          value = .int32 i ∧ wholeNumber? text = some k ∧ i.toInt = k.toInt := by
  simp only [toValue?, Option.map_eq_some_iff, Option.bind_eq_some_iff,
    Integer.int32?_eq_some_iff]
  constructor
  · rintro ⟨i, ⟨k, whole, narrow⟩, rfl⟩
    exact ⟨i, k, rfl, whole, narrow⟩
  · rintro ⟨i, k, rfl, whole, narrow⟩
    exact ⟨i, ⟨k, whole, narrow⟩, rfl⟩

theorem toValue?_int64_iff
    : (number text).toValue? .int64 = some value
      ↔ ∃ k : Int64, value = .int64 k ∧ wholeNumber? text = some k := by
  simp only [toValue?, Option.map_eq_some_iff, eq_comm (a := value), and_comm]

theorem toValue?_decimal_iff
    : (number text).toValue? .decimal = some value
      ↔ ∃ d, value = .decimal d ∧ Decimal.ofText? text = some d := by
  simp only [toValue?, Option.map_eq_some_iff, eq_comm (a := value), and_comm]

/-- An enumeration takes the number of a member that is written as digits alone. -/
theorem toValue?_enum_iff {members : EnumType}
    : (number n.text).toValue? (.enum members) = some value
      ↔ ∃ v,
          value = .enum v ∧ members.Declares v ∧ n.IsBare ∧ n.value = v.value.toInt := by
  simp only [toValue?, Option.map_eq_some_iff, Option.bind_eq_some_iff, Numeral.toList_text,
    Numeral.int64OfChars?_eq_some_iff, EnumType.valued?_eq_some_iff]
  constructor
  · rintro ⟨v, ⟨_, ⟨bare, number⟩, declared, rfl⟩, rfl⟩
    exact ⟨v, rfl, declared, bare, number⟩
  · rintro ⟨v, rfl, declared, bare, number⟩
    exact ⟨v, ⟨_, ⟨bare, number⟩, declared, rfl⟩, rfl⟩

end Taken

/-- What one spelling for the type stands for, so does every other one, by cases on the type. -/
theorem exists_toValue?_of_spelled (same : n.value = m.value) (counted : type.isCounted = true)
    (hn : n.SpelledFor type) (hm : m.SpelledFor type)
    (read : (number n.text).toValue? type = some value)
    : ∃ other, (number m.text).toValue? type = some other ∧ value.equals other = true := by
  have itself := equals_self_of_toValue? read
  cases type with
  | int32 =>
      obtain ⟨i, k, rfl, whole, narrow⟩ := toValue?_int32_iff.mp read
      have whole' := wholeNumber?_of_moderate same hn hm whole
      exact ⟨.int32 i, toValue?_int32_iff.mpr ⟨i, k, rfl, whole', narrow⟩, itself⟩
  | int64 =>
      obtain ⟨k, rfl, whole⟩ := toValue?_int64_iff.mp read
      have whole' := wholeNumber?_of_moderate same hn hm whole
      exact ⟨.int64 k, toValue?_int64_iff.mpr ⟨k, rfl, whole'⟩, itself⟩
  | decimal =>
      obtain ⟨d, rfl, decimal⟩ := toValue?_decimal_iff.mp read
      obtain ⟨d', decimal', equal⟩ := exists_ofText?_of_moderate same hn hm decimal
      have read' := toValue?_decimal_iff.mpr ⟨d', rfl, decimal'⟩
      exact ⟨.decimal d', read', Decimal.equals_iff.mpr equal⟩
  | enum members =>
      obtain ⟨v, rfl, declared, _, number⟩ := toValue?_enum_iff.mp read
      exact ⟨.enum v, toValue?_enum_iff.mpr ⟨v, rfl, declared, hm, same ▸ number⟩, itself⟩
  | bool | float64 | string | timestamp | uuid | array element => cases counted

/-- A text that is taken for the number that it denotes is spelled for the type, by cases on it. -/
theorem spelledFor_of_toValue? (counted : type.isCounted = true)
    (read : (number n.text).toValue? type = some value) (count : value.count? = some n.value)
    : n.SpelledFor type := by
  cases type with
  | int32 =>
      obtain ⟨i, k, rfl, whole, narrow⟩ := toValue?_int32_iff.mp read
      have number : n.value = k.toInt := by
        rw [← narrow]
        exact (Option.some.inj count).symm
      exact (wholeNumber?_iff_isModerate number).mp whole
  | int64 =>
      obtain ⟨k, rfl, whole⟩ := toValue?_int64_iff.mp read
      exact (wholeNumber?_iff_isModerate (Option.some.inj count).symm).mp whole
  | decimal =>
      obtain ⟨d, rfl, decimal⟩ := toValue?_decimal_iff.mp read
      exact (Decimal.exists_ofText?_iff.mp ⟨d, decimal, Option.some.inj count⟩).2
  | enum members =>
      obtain ⟨_, _, _, bare, _⟩ := toValue?_enum_iff.mp read
      exact bare
  | bool | float64 | string | timestamp | uuid | array element => cases counted

/-- A number that the type has is read from a spelling for it, by cases on the value that is this
number.
-/
theorem exists_toValue?_of_hasNumber (counted : type.isCounted = true)
    (has : type.HasNumber n.value) (spelled : n.SpelledFor type)
    : ∃ value, (number n.text).toValue? type = some value ∧ value.count? = some n.value := by
  obtain ⟨_, typed, count⟩ := has
  cases typed with
  | int32 i =>
      have wide : i.toInt64.toInt = i.toInt := i.toInt_toInt64
      have number : n.value = i.toInt64.toInt := by
        rw [wide]
        exact (Option.some.inj count).symm
      have whole := (wholeNumber?_iff_isModerate number).mpr spelled
      exact ⟨.int32 i, toValue?_int32_iff.mpr ⟨i, _, rfl, whole, wide.symm⟩, count⟩
  | int64 k =>
      have whole := (wholeNumber?_iff_isModerate (Option.some.inj count).symm).mpr spelled
      exact ⟨.int64 k, toValue?_int64_iff.mpr ⟨k, rfl, whole⟩, count⟩
  | decimal d =>
      -- The number may have other places as it is written.
      obtain ⟨d', decimal, same⟩ :=
        Decimal.exists_ofText?_iff.mpr ⟨⟨d, Option.some.inj count⟩, spelled⟩
      exact ⟨.decimal d', toValue?_decimal_iff.mpr ⟨d', rfl, decimal⟩, congrArg some same⟩
  | @enum _ v declared =>
      have number : n.value = v.value.toInt := (Option.some.inj count).symm
      exact ⟨.enum v, toValue?_enum_iff.mpr ⟨v, rfl, declared, spelled, number⟩, count⟩
  | null => cases count
  | bool _ | float64 _ | string _ | timestamp _ | uuid _ | array _ => cases counted

end Json

namespace Scalar

variable {n m : Numeral} {type : FieldType}

/-- Spellings of one number for the type have the same outcome. -/
theorem sameOutcome_of_spelled (counted : type.isCounted = true) (same : n.value = m.value)
    (hn : n.SpelledFor type) (hm : m.SpelledFor type)
    : Value.SameOutcome ((json (.number n.text)).coerce type)
        ((json (.number m.text)).coerce type) := by
  refine .of_forall (fun value made => ?_) (fun other made => ?_)
  · have read := coerce_number_eq_ok_iff.mp made
    obtain ⟨other, read', equal⟩ := Json.exists_toValue?_of_spelled same counted hn hm read
    exact ⟨other, coerce_number_eq_ok_iff.mpr read', equal⟩
  · have read := coerce_number_eq_ok_iff.mp made
    obtain ⟨value, read', _⟩ := Json.exists_toValue?_of_spelled same.symm counted hm hn read
    exact ⟨value, coerce_number_eq_ok_iff.mpr read'⟩

/-- A type takes the very number that a text denotes exactly when it has this number and the text is
a spelling for it.
-/
theorem exists_coerce_number_iff (counted : type.isCounted = true)
    : (∃ value,
          (json (.number n.text)).coerce type = .ok value ∧ value.count? = some n.value)
      ↔ type.HasNumber n.value ∧ n.SpelledFor type := by
  constructor
  · rintro ⟨value, made, count⟩
    have read := coerce_number_eq_ok_iff.mp made
    exact ⟨⟨value, hasType_of_coerce made, count⟩, Json.spelledFor_of_toValue? counted read count⟩
  · rintro ⟨has, spelled⟩
    obtain ⟨value, read, count⟩ := Json.exists_toValue?_of_hasNumber counted has spelled
    exact ⟨value, coerce_number_eq_ok_iff.mpr read, count⟩

/-- Where one spelling is taken for the number that it denotes, only spellings for the type have the
same outcome.
-/
theorem spelledFor_of_sameOutcome (counted : type.isCounted = true) (same : n.value = m.value)
    (has : type.HasNumber n.value) (hn : n.SpelledFor type)
    (outcome
      : Value.SameOutcome ((json (.number n.text)).coerce type)
          ((json (.number m.text)).coerce type))
    : m.SpelledFor type := by
  obtain ⟨value, made, count⟩ := (exists_coerce_number_iff counted).mpr ⟨has, hn⟩
  obtain ⟨other, made', equal⟩ := (made ▸ outcome).exists_of_ok
  have count' : other.count? = some m.value := by
    rw [← Value.count?_eq_of_equals equal, count, same]
  exact ((exists_coerce_number_iff counted).mp ⟨other, made', count'⟩).2

/-- Two texts of one number have the same outcome for a type that counts by exact numbers when both
are spelled for the type. Where the type has the number, a text is taken for it exactly if it is
spelled for the type, and no other text has the outcome of one that is.
-/
theorem coerce_number_by_value (counted : type.isCounted = true) (same : n.value = m.value)
    : (n.SpelledFor type → m.SpelledFor type →
          Value.SameOutcome ((json (.number n.text)).coerce type)
            ((json (.number m.text)).coerce type))
      ∧ ((∃ value,
            (json (.number n.text)).coerce type = .ok value ∧ value.count? = some n.value)
          ↔ type.HasNumber n.value ∧ n.SpelledFor type)
      ∧ (type.HasNumber n.value → n.SpelledFor type →
          (Value.SameOutcome ((json (.number n.text)).coerce type)
              ((json (.number m.text)).coerce type)
            ↔ m.SpelledFor type)) := by
  refine ⟨sameOutcome_of_spelled counted same, exists_coerce_number_iff counted, ?_⟩
  intro has hn
  exact ⟨spelledFor_of_sameOutcome counted same has hn, sameOutcome_of_spelled counted same hn⟩

/-- The exponent of the one number and the place of the other are both used up. -/
theorem coerce_number_by_value_of_two
    : let n : Numeral :=
        {
          negative := false, whole := ['2', '0'], places := [], exponent? := some (true, ['1'])
          whole_ne_nil := by decide
          zero_alone := by decide
          isDigit_of_mem_whole := by simp; decide
          isDigit_of_mem_places := by simp
          exponent_ne_nil := by simp
          isDigit_of_mem_exponent := by simp; decide
        }
      let m : Numeral :=
        {
          negative := false, whole := ['2'], places := ['0'], exponent? := none
          whole_ne_nil := by decide
          zero_alone := by decide
          isDigit_of_mem_whole := by simp; decide
          isDigit_of_mem_places := by simp; decide
          exponent_ne_nil := by simp
          isDigit_of_mem_exponent := by simp
        }
      n.text = "20e-1"
      ∧ m.text = "2.0"
      ∧ n.value = m.value
      ∧ Value.SameOutcome ((json (.number n.text)).coerce .int32)
          ((json (.number m.text)).coerce .int32) := by
  intro n m
  have base : n.base.value = 20 := by
    have mantissa : n.mantissa = 20 := rfl
    have places : n.places.length = 0 := rfl
    rw [Numeral.value, Numeral.size_base, mantissa, places]
    norm_num [signedBy, n, Numeral.base]
  have value : n.value = 2 := by
    have exponent : n.exponent = -1 := rfl
    rw [n.value_eq_base_mul, base, exponent]
    norm_num
  have value' : m.base.value = 2 := by
    have mantissa : m.mantissa = 20 := rfl
    have places : m.places.length = 1 := rfl
    rw [Numeral.value, Numeral.size_base, mantissa, places]
    norm_num [signedBy, m, Numeral.base]
  have same : n.value = m.value := value.trans value'.symm
  have holds (i : Int64) : Decimal.Holds i.toInt := ⟨Decimal.ofInt64 i, Decimal.value_ofInt64 i⟩
  have moderate : n.IsModerate := ⟨base ▸ holds 20, by decide⟩
  have moderate' : m.IsModerate := ⟨value' ▸ holds 2, by decide⟩
  exact ⟨rfl, rfl, same, (coerce_number_by_value rfl same).1 moderate moderate'⟩

/-- A zero is no integer when its exponent moves the point beyond the places of a decimal number. -/
theorem coerce_int64_of_shifted_zero
    : let n : Numeral :=
        {
          negative := false, whole := ['0'], places := [], exponent? := some (false, ['2', '9'])
          whole_ne_nil := by decide
          zero_alone := by decide
          isDigit_of_mem_whole := by simp; decide
          isDigit_of_mem_places := by simp
          exponent_ne_nil := by simp
          isDigit_of_mem_exponent := by simp; decide
        }
      n.text = "0e+29"
      ∧ n.value = n.base.value
      ∧ n.base.text = "0"
      ∧ (json (.number n.text)).coerce .int64
        = .error (.valueConversion (.json (.number n.text)) .int64)
      ∧ (json (.number n.base.text)).coerce .int64 = .ok (.int64 0) := by
  intro n
  have text : n.text = "0e+29" := rfl
  have base : n.base.text = "0" := rfl
  have zero : n.base.value = 0 := by
    have mantissa : n.mantissa = 0 := rfl
    rw [Numeral.value, signedBy_eq_zero_iff, Numeral.size_base, mantissa]
    norm_num
  refine ⟨text, ?_, base, ?_, ?_⟩
  · rw [n.value_eq_base_mul, zero, zero_mul]
  · rw [text]
    rfl
  · rw [base]
    rfl

end Scalar

end RecordFilter
