import RecordFilter.Decimal.Reader
import RecordFilter.Proofs.Integer

/-! Decimal numbers are read back from their text with the same mantissa and the same places. Only
the sign of a zero gets lost.
-/

namespace RecordFilter.Decimal

open RecordFilter.Text

/-- The number that digits go on to write after a number. -/
def extend (mantissa : Nat) (cs : List Char) : Nat :=
  cs.foldl (fun n c => 10 * n + (digit? c).getD 0) mantissa

theorem le_extend (mantissa : Nat) (cs : List Char) : mantissa ≤ extend mantissa cs := by
  induction cs generalizing mantissa with
  | nil => exact Nat.le_refl mantissa
  | cons c rest ih =>
      have step := ih (10 * mantissa + (digit? c).getD 0)
      rw [extend, List.foldl_cons]
      rw [extend] at step
      omega

/-- The first place shifts the number by one digit. -/
theorem extend_cons {c : Char} {digit : Nat} (hd : digit? c = some digit) (mantissa : Nat)
    (rest : List Char)
    : extend mantissa (c :: rest) = extend (mantissa * 10 + digit) rest := by
  rw [extend, List.foldl_cons, hd, Option.getD_some, Nat.mul_comm 10 mantissa, extend]

/-- Places are all taken up while there is room for them, by induction on the places. -/
theorem takePlaces?_eq_some {mantissa scale : Nat} {cs : List Char}
    (digits : ∀ c ∈ cs, isDigit c = true) (places : scale + cs.length ≤ 28)
    (fits : extend mantissa cs < 1 <<< 96)
    : takePlaces? mantissa scale cs = some (extend mantissa cs, scale + cs.length) := by
  induction cs generalizing mantissa scale with
  | nil => rfl
  | cons c rest ih =>
      rw [List.forall_mem_cons] at digits
      obtain ⟨digit, hd⟩ := Option.isSome_iff_exists.mp digits.1
      have next := extend_cons hd mantissa rest
      -- The places to come make the number no smaller, so that it has room all along.
      have room : mantissa * 10 + digit < 1 <<< 96 := by
        have bound := le_extend (mantissa * 10 + digit) rest
        omega
      rw [List.length_cons] at places
      rw [next] at fits ⊢
      simp only [takePlaces?, hd, room, decide_true, Bool.and_true, decide_eq_true_eq]
      rw [if_pos (by omega), ih digits.2 (by omega) fits, List.length_cons]
      congr 2
      omega

section Plain

variable {negative : Bool} {whole places : List Char}

theorem splitSign_minus_append (h : whole ≠ []) (digits : ∀ c ∈ whole, isDigit c = true)
    (rest : List Char)
    : splitSign (minus negative ++ (whole ++ rest)) = (negative, whole ++ rest) := by
  cases negative with
  | true => rfl
  | false =>
      obtain ⟨c, cs, rfl⟩ := List.exists_cons_of_ne_nil h
      have hc := digits c List.mem_cons_self
      simp only [minus, Bool.false_eq_true, if_false, List.nil_append, List.cons_append]
      unfold splitSign
      split
      next same => simp_all [isDigit_iff]
      next same => simp_all [isDigit_iff]
      next => rfl

/-- The point and the places after it, if there are any. -/
def fraction (places : List Char) : List Char :=
  if places.isEmpty then [] else '.' :: places

theorem takeWhile_append_fraction (digits : ∀ c ∈ whole, isDigit c = true)
    : (whole ++ fraction places).takeWhile (· != '.') = whole
      ∧ ((whole ++ fraction places).dropWhile (· != '.')).drop 1 = places := by
  have free : ∀ c ∈ whole, (c != '.') = true := by
    intro c hc
    have h := isDigit_iff.mp (digits c hc)
    rw [bne_iff_ne]
    intro same
    rw [same] at h
    exact absurd h.1 (by decide)
  rw [List.takeWhile_append_of_pos free, List.dropWhile_append_of_pos free]
  cases places with
  | nil => simp [fraction]
  | cons c rest => simp [fraction]

/-- Digits, with a sign and a point or without, are read place by place once their whole part has
room; what reads as zero has no sign.
-/
theorem plain?_minus_append (h : whole ≠ []) (hw : ∀ c ∈ whole, isDigit c = true)
    (hp : ∀ c ∈ places, isDigit c = true)
    : plain? (minus negative ++ (whole ++ fraction places))
      = if digitsValue whole < 1 <<< 96 then
          (takePlaces? (digitsValue whole) 0 places).bind fun (mantissa, scale) =>
            ofParts? (negative && mantissa != 0) mantissa scale
        else
          none := by
  have numeral : isNumeral (whole ++ places) = true := by
    obtain ⟨c, cs, rfl⟩ := List.exists_cons_of_ne_nil h
    rw [List.forall_mem_cons] at hw
    simp only [List.cons_append, isNumeral, hw.1, Bool.true_and, List.all_append, Bool.and_eq_true,
      List.all_eq_true, Bool.or_eq_true]
    exact ⟨fun c hc => .inl (hw.2 c hc), fun c hc => .inl (hp c hc)⟩
  have filtered : whole.filter isDigit = whole := List.filter_eq_self.mpr hw
  obtain ⟨first, second⟩ := @takeWhile_append_fraction whole places hw
  simp only [plain?, splitSign_minus_append h hw, first, second, numeral, filtered, Bool.true_and,
    decide_eq_true_eq]

/-- Digits are read as they are where there is room for all of them. -/
theorem plain?_eq_ofParts? (h : whole ≠ []) (hw : ∀ c ∈ whole, isDigit c = true)
    (hp : ∀ c ∈ places, isDigit c = true) (length : places.length ≤ 28)
    (fits : digitsValue (whole ++ places) < 1 <<< 96)
    : plain? (minus negative ++ (whole ++ fraction places))
      = ofParts? (negative && digitsValue (whole ++ places) != 0) (digitsValue (whole ++ places))
          places.length := by
  have value : digitsValue (whole ++ places) = extend (digitsValue whole) places :=
    digitsValue_append whole places
  have room : digitsValue whole < 1 <<< 96 := by
    have bound := le_extend (digitsValue whole) places
    omega
  rw [value] at fits ⊢
  rw [plain?_minus_append h hw hp, if_pos room, takePlaces?_eq_some hp (by omega) fits,
    Option.bind_some, Nat.zero_add]

end Plain

/-- The same number, except that zero has no sign. -/
def unsignedZero (d : Decimal) : Decimal :=
  { d with negative := d.negative && d.mantissa != 0 }

theorem grid_unsignedZero (d : Decimal) : d.unsignedZero.grid = d.grid := by
  rcases Nat.eq_zero_or_pos d.mantissa with h | h
  · simp [unsignedZero, grid, signed, h]
  · simp [unsignedZero, grid, signed, Nat.pos_iff_ne_zero.mp h]

/-- The digits of a mantissa without the places. -/
def wholeChars (d : Decimal) : List Char :=
  let digits := padded (d.scale + 1) d.mantissa
  digits.take (digits.length - d.scale)

def placeChars (d : Decimal) : List Char :=
  let digits := padded (d.scale + 1) d.mantissa
  digits.drop (digits.length - d.scale)

section Chars

variable (d : Decimal)

theorem wholeChars_append_placeChars
    : d.wholeChars ++ d.placeChars = padded (d.scale + 1) d.mantissa :=
  List.take_append_drop _ _

theorem scale_lt_length_padded : d.scale < (padded (d.scale + 1) d.mantissa).length := by
  rw [length_padded]
  omega

theorem length_placeChars : d.placeChars.length = d.scale := by
  have room := d.scale_lt_length_padded
  rw [placeChars, List.length_drop]
  omega

theorem wholeChars_ne_nil : d.wholeChars ≠ [] := by
  have room := d.scale_lt_length_padded
  rw [← List.length_pos_iff, wholeChars, List.length_take]
  omega

theorem isDigit_of_mem_wholeChars : ∀ c ∈ d.wholeChars, isDigit c = true :=
  fun _ hc => isDigit_of_mem_padded (List.mem_of_mem_take hc)

theorem isDigit_of_mem_placeChars : ∀ c ∈ d.placeChars, isDigit c = true :=
  fun _ hc => isDigit_of_mem_padded (List.mem_of_mem_drop hc)

/-- The text of a number is its sign, its whole part and its places, if it has any. -/
theorem chars_eq : d.chars = minus d.negative ++ (d.wholeChars ++ fraction d.placeChars) := by
  have empty : d.placeChars.isEmpty = decide (d.scale = 0) := by
    rw [Bool.eq_iff_iff, List.isEmpty_iff, ← List.length_eq_zero_iff, length_placeChars,
      decide_eq_true_iff]
  simp only [fraction, empty, decide_eq_true_eq, ← List.append_assoc]
  rfl

theorem isBlank_of_mem_chars : ∀ c ∈ d.chars, isBlank c = false := by
  intro c hc
  rw [chars_eq, List.mem_append, List.mem_append] at hc
  rcases hc with hc | hc | hc
  · unfold minus at hc
    split at hc
    · rw [List.mem_singleton.mp hc]
      decide
    · cases hc
  · exact isBlank_of_isDigit (d.isDigit_of_mem_wholeChars c hc)
  · unfold fraction at hc
    split at hc
    · cases hc
    · rcases List.mem_cons.mp hc with rfl | hc
      · decide
      · exact isBlank_of_isDigit (d.isDigit_of_mem_placeChars c hc)

theorem plain?_chars : plain? d.chars = some d.unsignedZero := by
  have value : digitsValue (d.wholeChars ++ d.placeChars) = d.mantissa := by
    rw [wholeChars_append_placeChars, digitsValue_padded]
  rw [chars_eq, plain?_eq_ofParts? d.wholeChars_ne_nil d.isDigit_of_mem_wholeChars
    d.isDigit_of_mem_placeChars (d.length_placeChars ▸ d.scale_le) (value ▸ d.mantissa_lt), value,
    length_placeChars, ofParts?, dif_pos ⟨d.mantissa_lt, d.scale_le⟩]
  rfl

/-- The text of a number is read as the number, except for the sign of a zero. -/
theorem ofText?_text : ofText? d.text = some d.unsignedZero := by
  rw [ofText?, text, String.toList_ofList, trimChars_eq_self_of_forall d.isBlank_of_mem_chars,
    plain?_chars, Option.some_or]

end Chars

theorem wholeInt?_unsignedZero (d : Decimal) : d.unsignedZero.wholeInt? = d.wholeInt? := by
  rcases Nat.eq_zero_or_pos d.mantissa with h | h
  · simp [unsignedZero, wholeInt?, signed, h]
  · simp [unsignedZero, wholeInt?, signed, Nat.pos_iff_ne_zero.mp h]

/-- A number without a fraction is its own nearest whole number. -/
theorem nearestInt_of_wholeInt? {d : Decimal} {n : Int} (h : d.wholeInt? = some n)
    : d.nearestInt = n := by
  have positive : 0 < Nat.pow 10 d.scale := Nat.pow_pos (by decide)
  simp only [wholeInt?] at h
  split at h
  next even =>
    cases h
    -- A remainder of zero lies below the half.
    simp only [nearestInt, Rounding.halfEven, even]
    rw [if_pos (by omega)]
  next => cases h

/-- A whole number is written as the decimal number without places. -/
theorem text_ofInt64 (n : Int64) : (ofInt64 n).text = toString n.toInt := by
  have scale : (ofInt64 n).scale = 0 := rfl
  have none : (ofInt64 n).placeChars = [] := by
    rw [← List.length_eq_zero_iff, length_placeChars, scale]
  have whole : (ofInt64 n).wholeChars = Nat.toDigits 10 n.toInt.natAbs := by
    have width : 1 - (Nat.toDigits 10 n.toInt.natAbs).length = 0 := by
      have positive := @Nat.length_toDigits_pos 10 n.toInt.natAbs
      omega
    rw [← List.append_nil (ofInt64 n).wholeChars, ← none, wholeChars_append_placeChars, scale,
      padded]
    -- The width is one, which every number fills.
    change List.replicate (1 - (Nat.toDigits 10 n.toInt.natAbs).length) '0' ++ _ = _
    rw [width, List.replicate_zero, List.nil_append]
    rfl
  rw [← String.toList_inj, text, String.toList_ofList, Integer.toList_toString, chars_eq, whole,
    none, fraction, List.isEmpty_nil, if_pos rfl, List.append_nil]
  rfl

theorem unsignedZero_ofInt64 (n : Int64) : (ofInt64 n).unsignedZero = ofInt64 n := by
  have sign : (decide (n.toInt < 0) && n.toInt.natAbs != 0) = decide (n.toInt < 0) := by
    rw [Bool.eq_iff_iff]
    simp only [Bool.and_eq_true, decide_eq_true_eq, bne_iff_ne]
    omega
  simp only [unsignedZero, ofInt64, sign]

/-- The digits of a whole number are read as the decimal number without places. -/
theorem ofText?_toString (n : Int64) : ofText? (toString n.toInt) = some (ofInt64 n) := by
  rw [← text_ofInt64, ofText?_text, unsignedZero_ofInt64]

end RecordFilter.Decimal
