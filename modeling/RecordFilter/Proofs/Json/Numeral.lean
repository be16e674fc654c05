import RecordFilter.Json.Scanner
import RecordFilter.Proofs.Decimal.Text
import RecordFilter.Proofs.Rounding
import RecordFilter.Proofs.Traversal
import Mathlib.Algebra.Order.Field.Power

/-! The texts of JSON numbers by their parts, and the numbers that they denote. The scanner of
numbers returns these texts only, and it returns each of them as it stands, up to what cannot go on
with it.
-/

namespace RecordFilter

namespace Json

open RecordFilter.Text

/-- The text of a number by its parts: the digits on both sides of the point, which is missing when
none follow, and the sign and the digits of the exponent, if there is one.
-/
structure Numeral where
  negative : Bool
  whole : List Char
  places : List Char
  exponent? : Option (Bool × List Char)
  whole_ne_nil : whole ≠ []
  /-- No other digit follows a zero in front. -/
  zero_alone : whole.head? = some '0' → whole = ['0']
  isDigit_of_mem_whole : ∀ c ∈ whole, isDigit c = true
  isDigit_of_mem_places : ∀ c ∈ places, isDigit c = true
  exponent_ne_nil : ∀ part ∈ exponent?, part.2 ≠ []
  isDigit_of_mem_exponent : ∀ part ∈ exponent?, ∀ c ∈ part.2, isDigit c = true

namespace Numeral

/-- The sign of an exponent, which is always written. -/
def exponentSign (negative : Bool) : Char :=
  if negative then '-' else '+'

/-- The mark, the sign and the digits of an exponent. -/
def exponentChars : Option (Bool × List Char) → List Char
  | none => []
  | some (negative, digits) => 'e' :: exponentSign negative :: digits

def chars (n : Numeral) : List Char :=
  minus n.negative ++ (n.whole ++ Decimal.fraction n.places) ++ exponentChars n.exponent?

def text (n : Numeral) : String :=
  String.ofList n.chars

/-- The digits of the number without the point, as a whole number. -/
def mantissa (n : Numeral) : Nat :=
  digitsValue (n.whole ++ n.places)

/-- The power of ten that the exponent stands for. -/
def exponent (n : Numeral) : Int :=
  match n.exponent? with
  | none => 0
  | some (negative, digits) =>
      if negative then -(digitsValue digits : Int) else digitsValue digits

/-- The number without its sign. -/
def size (n : Numeral) : ℚ :=
  n.mantissa * 10 ^ (n.exponent - n.places.length)

/-- The exact number that the text denotes. -/
def value (n : Numeral) : ℚ :=
  signedBy n.negative n.size

theorem ne_nil_of_no_exponent : ∀ part ∈ (none : Option (Bool × List Char)), part.2 ≠ [] := by
  simp

theorem isDigit_of_no_exponent
    : ∀ part ∈ (none : Option (Bool × List Char)), ∀ c ∈ part.2, isDigit c = true := by
  simp

/-- The number in front of the exponent. -/
def base (n : Numeral) : Numeral :=
  {
    n with
    exponent? := none
    exponent_ne_nil := ne_nil_of_no_exponent
    isDigit_of_mem_exponent := isDigit_of_no_exponent
  }

theorem chars_eq_base_append (n : Numeral)
    : n.chars = n.base.chars ++ exponentChars n.exponent? := by
  have base : n.base.chars = minus n.negative ++ (n.whole ++ Decimal.fraction n.places) :=
    List.append_nil _
  rw [base]
  rfl

theorem mem_base_chars {n : Numeral} {c : Char} (h : c ∈ n.base.chars)
    : isDigit c = true ∨ c = '-' ∨ c = '.' := by
  have base : n.base.chars = minus n.negative ++ (n.whole ++ Decimal.fraction n.places) :=
    List.append_nil _
  rw [base, List.mem_append, List.mem_append] at h
  rcases h with sign | whole | point
  · unfold minus at sign
    split at sign <;> simp_all
  · exact .inl (n.isDigit_of_mem_whole c whole)
  · unfold Decimal.fraction at point
    split at point
    next => cases point
    next =>
      rcases List.mem_cons.mp point with same | place
      · exact .inr (.inr same)
      · exact .inl (n.isDigit_of_mem_places c place)

theorem mem_chars {n : Numeral} {c : Char} (h : c ∈ n.chars)
    : isDigit c = true ∨ c = '-' ∨ c = '.' ∨ c = 'e' ∨ c = '+' := by
  rw [chars_eq_base_append, List.mem_append] at h
  rcases h with base | exponent
  · rcases mem_base_chars base with digit | sign | point <;> simp_all
  · cases part : n.exponent? with
    | none => simp [part, exponentChars] at exponent
    | some part' =>
        obtain ⟨negative, digits⟩ := part'
        rw [part, exponentChars, List.mem_cons, List.mem_cons] at exponent
        rcases exponent with mark | sign | digit
        · simp [mark]
        · cases negative <;> simp_all [exponentSign]
        · exact .inl (n.isDigit_of_mem_exponent _ part c digit)

theorem size_nonneg (n : Numeral) : 0 ≤ n.size := by
  unfold size
  positivity

theorem size_base (n : Numeral) : n.base.size = n.mantissa / 10 ^ n.places.length := by
  change (n.mantissa : ℚ) * 10 ^ (0 - (n.places.length : Int)) = _
  rw [zero_sub, zpow_neg, zpow_natCast, div_eq_mul_inv]

/-- The exponent shifts the point of the number in front of it. -/
theorem value_eq_base_mul (n : Numeral) : n.value = n.base.value * 10 ^ n.exponent := by
  have size : n.size = n.base.size * 10 ^ n.exponent := by
    rw [Numeral.size, size_base, zpow_sub₀ (by norm_num), zpow_natCast]
    ring
  change signedBy n.negative n.size = signedBy n.negative n.base.size * _
  rw [size, signedBy, signedBy]
  split <;> ring

end Numeral

/-- Characters that go on with a number when they follow it. -/
def continuesNumber (c : Char) : Bool :=
  isDigit c || c == '.' || c == 'e' || c == 'E'

section Append

variable {rest : List Char}

theorem scanDigits_append {digits : List Char} (h : ∀ c ∈ digits, isDigit c = true)
    (stop : ∀ c ∈ rest.head?, isDigit c = false)
    : scanDigits (digits ++ rest) = (digits, rest) := by
  obtain ⟨taken, left⟩ := span_digits_append h stop
  rw [scanDigits, taken, left]

theorem scanWhole_append {whole : List Char} (filled : whole ≠ [])
    (alone : whole.head? = some '0' → whole = ['0']) (digits : ∀ c ∈ whole, isDigit c = true)
    (stop : ∀ c ∈ rest.head?, isDigit c = false)
    : scanWhole (whole ++ rest) = .ok (whole, rest) := by
  obtain ⟨c, cs, rfl⟩ := List.exists_cons_of_ne_nil filled
  by_cases zero : c = '0'
  · subst zero
    obtain rfl : cs = [] := by simpa using alone rfl
    cases rest with
    | nil => rfl
    | cons c rest => simp [scanWhole, stop c rfl]
  · have span := scanDigits_append digits stop
    rw [List.cons_append] at span ⊢
    unfold scanWhole
    split
    next => contradiction
    next same => exact absurd (List.cons.inj same).1 zero
    next same =>
      cases same
      rw [if_pos (digits _ List.mem_cons_self), span]

theorem scanExponent_append {negative : Bool} {digits : List Char} (filled : digits ≠ [])
    (h : ∀ c ∈ digits, isDigit c = true) (stop : ∀ c ∈ rest.head?, isDigit c = false)
    : scanExponent (Numeral.exponentSign negative :: digits ++ rest)
      = .ok ('e' :: Numeral.exponentSign negative :: digits, rest) := by
  obtain ⟨c, cs, rfl⟩ := List.exists_cons_of_ne_nil filled
  have span := scanDigits_append h stop
  rw [List.cons_append] at span
  -- Either sign is split off before the digits.
  cases negative <;>
    simp only [Numeral.exponentSign, Bool.false_eq_true, if_true, if_false, List.cons_append,
      scanExponent, span]

theorem scanExponentPart_append {exponent? : Option (Bool × List Char)}
    (filled : ∀ part ∈ exponent?, part.2 ≠ [])
    (h : ∀ part ∈ exponent?, ∀ c ∈ part.2, isDigit c = true)
    (stop : ∀ c ∈ rest.head?, continuesNumber c = false)
    : scanExponentPart (Numeral.exponentChars exponent? ++ rest)
      = .ok (Numeral.exponentChars exponent?, rest) := by
  cases exponent? with
  | none =>
      rw [Numeral.exponentChars, List.nil_append]
      unfold scanExponentPart
      split
      next => simp [continuesNumber] at stop
      next => simp [continuesNumber] at stop
      next => rfl
  | some part =>
      have noDigit : ∀ c ∈ rest.head?, isDigit c = false := fun c hc => by
        have := stop c hc
        simp_all [continuesNumber]
      exact scanExponent_append (filled part rfl) (h part rfl) noDigit

theorem head?_exponentChars_append {exponent? : Option (Bool × List Char)}
    (stop : ∀ c ∈ rest.head?, continuesNumber c = false)
    : ∀ c ∈ (Numeral.exponentChars exponent? ++ rest).head?, isDigit c = false ∧ c ≠ '.' := by
  intro c hc
  cases exponent? with
  | none =>
      have := stop c hc
      simp_all [continuesNumber]
  | some part =>
      cases hc
      exact ⟨rfl, by decide⟩

theorem scanFractionPart_append {places : List Char} {exponent? : Option (Bool × List Char)}
    (digits : ∀ c ∈ places, isDigit c = true) (filled : ∀ part ∈ exponent?, part.2 ≠ [])
    (h : ∀ part ∈ exponent?, ∀ c ∈ part.2, isDigit c = true)
    (stop : ∀ c ∈ rest.head?, continuesNumber c = false)
    : scanFractionPart (Decimal.fraction places ++ (Numeral.exponentChars exponent? ++ rest))
      = .ok (Decimal.fraction places ++ Numeral.exponentChars exponent?, rest) := by
  have exponent := scanExponentPart_append filled h stop
  have next := @head?_exponentChars_append rest exponent? stop
  cases places with
  | nil =>
      simp only [Decimal.fraction, List.isEmpty_nil, if_true, List.nil_append]
      unfold scanFractionPart
      split
      next same => simp [same] at next
      next => exact exponent
  | cons c cs =>
      have span := scanDigits_append digits fun c hc => (next c hc).1
      rw [List.cons_append] at span
      simp only [Decimal.fraction, List.isEmpty_cons, Bool.false_eq_true, if_false,
        List.cons_append, scanFractionPart, span, exponent]
      rfl

/-- A number is read whole when nothing follows it that goes on with it. -/
theorem scanNumber_append (n : Numeral) (stop : ∀ c ∈ rest.head?, continuesNumber c = false)
    : scanNumber (n.chars ++ rest) = .ok (n.chars, rest) := by
  have fraction :=
    scanFractionPart_append n.isDigit_of_mem_places n.exponent_ne_nil n.isDigit_of_mem_exponent stop
  have afterWhole
      : ∀ c ∈ (Decimal.fraction n.places ++ (Numeral.exponentChars n.exponent? ++ rest)).head?,
          isDigit c = false := by
    intro c hc
    cases places : n.places with
    | nil =>
        rw [places, Decimal.fraction, List.isEmpty_nil, if_pos rfl, List.nil_append] at hc
        exact (head?_exponentChars_append stop c hc).1
    | cons =>
        simp only [Decimal.fraction, places] at hc
        cases hc
        rfl
  have whole := scanWhole_append n.whole_ne_nil n.zero_alone n.isDigit_of_mem_whole afterWhole
  have unsigned
      : scanUnsigned
          (n.whole ++ (Decimal.fraction n.places ++ (Numeral.exponentChars n.exponent? ++ rest)))
        = .ok
          (n.whole ++ (Decimal.fraction n.places ++ Numeral.exponentChars n.exponent?), rest) := by
    rw [scanUnsigned, whole, ok_bind]
    dsimp only
    rw [fraction]
    rfl
  simp only [Numeral.chars, List.append_assoc]
  cases n.negative with
  | true =>
      simp only [minus, if_true, List.singleton_append, scanNumber, unsigned]
      rfl
  | false =>
      simp only [minus, Bool.false_eq_true, if_false, List.nil_append]
      obtain ⟨c, cs, same⟩ := List.exists_cons_of_ne_nil n.whole_ne_nil
      have digit := n.isDigit_of_mem_whole c (same ▸ List.mem_cons_self)
      unfold scanNumber
      split
      next minus => simp_all [isDigit_iff]
      next => exact unsigned

end Append

section Scanned

variable {cs digits rest : List Char}

theorem scanDigits_eq {digits rest : List Char} (h : scanDigits cs = (digits, rest))
    : ∀ c ∈ digits, isDigit c = true := by
  cases h
  exact List.all_eq_true.mp List.all_takeWhile

theorem scanWhole_eq_ok {whole : List Char} (h : scanWhole cs = .ok (whole, rest))
    : whole ≠ []
      ∧ (whole.head? = some '0' → whole = ['0'])
      ∧ ∀ c ∈ whole, isDigit c = true := by
  unfold scanWhole at h
  split at h
  next => cases h
  next =>
    have zero : whole = ['0'] := by
      split at h
      next => split at h <;> simp_all
      next => simp_all
    subst zero
    exact ⟨by simp, fun _ => rfl, by simp; rfl⟩
  next c cs other =>
    split at h
    next digit =>
      have taken := scanDigits_eq (Except.ok.inj h)
      have first : whole = c :: cs.takeWhile isDigit := by
        have := (Prod.mk.inj (Except.ok.inj h)).1
        rw [← this, List.takeWhile_cons_of_pos digit]
      subst first
      refine ⟨by simp, fun zero => ?_, taken⟩
      exact (other (Option.some.inj zero)).elim
    next => cases h

theorem scanExponentPart_eq_ok (h : scanExponentPart cs = .ok (digits, rest))
    : ∃ exponent? : Option (Bool × List Char),
        digits = Numeral.exponentChars exponent?
        ∧ (∀ part ∈ exponent?, part.2 ≠ [])
        ∧ ∀ part ∈ exponent?, ∀ c ∈ part.2, isDigit c = true := by
  have marked {cs : List Char} (h : scanExponent cs = .ok (digits, rest))
      : ∃ part : Bool × List Char,
          digits = Numeral.exponentChars (some part)
          ∧ part.2 ≠ []
          ∧ ∀ c ∈ part.2, isDigit c = true := by
    unfold scanExponent at h
    dsimp only at h
    split at h
    next => cases h
    next => cases h
    next found left both filled scanned =>
      cases h
      have digits : found ≠ [] ∧ ∀ c ∈ found, isDigit c = true := ⟨filled, scanDigits_eq scanned⟩
      -- The sign is a plus sign where none is written.
      split
      · exact ⟨(false, found), rfl, digits⟩
      · exact ⟨(true, found), rfl, digits⟩
      · exact ⟨(false, found), rfl, digits⟩
  unfold scanExponentPart at h
  split at h
  next =>
    obtain ⟨part, same, facts⟩ := marked h
    exact ⟨some part, same, by simpa using facts⟩
  next =>
    obtain ⟨part, same, facts⟩ := marked h
    exact ⟨some part, same, by simpa using facts⟩
  next =>
    cases h
    exact ⟨none, rfl, by simp, by simp⟩

theorem scanFractionPart_eq_ok (h : scanFractionPart cs = .ok (digits, rest))
    : ∃ (places : List Char) (exponent? : Option (Bool × List Char)),
        digits = Decimal.fraction places ++ Numeral.exponentChars exponent?
        ∧ (∀ c ∈ places, isDigit c = true)
        ∧ (∀ part ∈ exponent?, part.2 ≠ [])
        ∧ ∀ part ∈ exponent?, ∀ c ∈ part.2, isDigit c = true := by
  unfold scanFractionPart at h
  split at h
  next =>
    split at h
    next => cases h
    next => cases h
    next found left both filled scanned =>
      obtain ⟨⟨exponent, last⟩, read, same⟩ := bind_eq_ok_iff.mp h
      obtain ⟨exponent?, written, facts⟩ := scanExponentPart_eq_ok read
      cases same
      have notEmpty : found.isEmpty = false := by simpa using filled
      refine ⟨found, exponent?, ?_, scanDigits_eq scanned, facts⟩
      simp [Decimal.fraction, notEmpty, written]
  next =>
    obtain ⟨exponent?, written, facts⟩ := scanExponentPart_eq_ok h
    exact ⟨[], exponent?, written, by simp, facts⟩

theorem scanUnsigned_eq_ok (h : scanUnsigned cs = .ok (digits, rest))
    : ∃ n : Numeral, n.negative = false ∧ digits = n.chars := by
  obtain ⟨⟨whole, afterWhole⟩, readWhole, h⟩ := bind_eq_ok_iff.mp h
  obtain ⟨⟨fraction, last⟩, readFraction, same⟩ := bind_eq_ok_iff.mp h
  cases same
  obtain ⟨filled, alone, wholeDigits⟩ := scanWhole_eq_ok readWhole
  obtain ⟨places, exponent?, rfl, placesDigits, exponentFilled, exponentDigits⟩ :=
    scanFractionPart_eq_ok readFraction
  refine
    ⟨⟨false, whole, places, exponent?, filled, alone, wholeDigits, placesDigits, exponentFilled,
        exponentDigits⟩,
      rfl, ?_⟩
  simp [Numeral.chars, minus]

/-- Whatever is read as a number is the text of one. -/
theorem scanNumber_eq_ok (h : scanNumber cs = .ok (digits, rest))
    : ∃ n : Numeral, digits = n.chars := by
  unfold scanNumber at h
  split at h
  next =>
    obtain ⟨⟨unsigned, last⟩, read, same⟩ := bind_eq_ok_iff.mp h
    cases same
    obtain ⟨n, positive, rfl⟩ := scanUnsigned_eq_ok read
    refine ⟨{ n with negative := true }, ?_⟩
    simp [Numeral.chars, minus, positive]
  next =>
    obtain ⟨n, _, same⟩ := scanUnsigned_eq_ok h
    exact ⟨n, same⟩

end Scanned

end Json

end RecordFilter
