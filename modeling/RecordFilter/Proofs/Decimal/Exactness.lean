import RecordFilter.Proofs.Decimal.Value
import RecordFilter.Proofs.Json.Numeral

/-! Decimal numbers read from the texts of JSON numbers. What is read is the number that the text
denotes exactly when a decimal number can hold both this number and the one in front of its
exponent; places are rounded away in all other cases.
-/

namespace RecordFilter

open RecordFilter.Text
open RecordFilter.Json (Numeral)

namespace Decimal

/-- Digits go on with a number by shifting it to the left of them, by induction on the digits. -/
theorem extend_eq (mantissa : Nat) (cs : List Char)
    : extend mantissa cs = mantissa * 10 ^ cs.length + digitsValue cs := by
  induction cs generalizing mantissa with
  | nil => simp [extend, digitsValue]
  | cons c rest ih =>
      have first := ih (10 * mantissa + (digit? c).getD 0)
      have second := ih (10 * 0 + (digit? c).getD 0)
      rw [extend] at first second
      rw [extend, digitsValue, List.foldl_cons, List.foldl_cons, first, second, List.length_cons,
        Nat.pow_succ]
      ring

theorem digitsValue_lt (cs : List Char) : digitsValue cs < 10 ^ cs.length := by
  induction cs with
  | nil => simp [digitsValue]
  | cons c rest ih =>
      have digit : (digit? c).getD 0 ≤ 9 := by
        unfold digit?
        split
        next inRange =>
          have bounds : isDigit c = true := by simp [isDigit, digit?, inRange]
          rw [isDigit_iff] at bounds
          simp
          omega
        next => simp
      have step := extend_eq ((digit? c).getD 0) rest
      rw [extend] at step
      rw [digitsValue, List.foldl_cons, Nat.mul_zero, Nat.zero_add, step, List.length_cons,
        Nat.pow_succ]
      nlinarith

theorem digitsValue_cons {c : Char} {digit : Nat} (h : digit? c = some digit) (rest : List Char)
    : digitsValue (c :: rest) = digit * 10 ^ rest.length + digitsValue rest := by
  have step := extend_eq digit rest
  rw [extend] at step
  rw [digitsValue, List.foldl_cons, h, Option.getD_some, Nat.mul_zero, Nat.zero_add, step]

/-- What is left of a number below a power of ten is nothing when the power divides the number. -/
theorem eq_zero_of_mul_add_eq {a b k unit : Nat} (small : b < unit) (h : a * unit + b = k * unit)
    : b = 0 := by
  have := congrArg (· % unit) h
  simpa [Nat.add_comm (a * unit), Nat.mod_eq_of_lt small] using this

/-- A number with a smaller mantissa than these digits has to do with fewer places. -/
theorem places_le_of_mantissa_lt {digits tail length scale m s : Nat} (smaller : m < digits)
    (same : (digits * 10 ^ length + tail) * 10 ^ s = m * 10 ^ (scale + 1 + length))
    : s ≤ scale := by
  by_contra more
  have power : 10 ^ s = 10 ^ (s - (scale + 1)) * 10 ^ (scale + 1) := by
    rw [← Nat.pow_add]
    congr 1
    omega
  have scaled : digits * 10 ^ length * 10 ^ (s - (scale + 1)) ≤ m * 10 ^ length := by
    refine Nat.le_of_mul_le_mul_right ?_ (by positivity : 0 < 10 ^ (scale + 1))
    calc digits * 10 ^ length * 10 ^ (s - (scale + 1)) * 10 ^ (scale + 1)
        ≤ (digits * 10 ^ length + tail) * 10 ^ s := by
          rw [power, Nat.mul_assoc]
          exact Nat.mul_le_mul_right _ (Nat.le_add_right _ _)
      _ = m * 10 ^ length * 10 ^ (scale + 1) := by
          rw [same, Nat.pow_add 10 (scale + 1)]
          ring
  have : digits * 10 ^ length ≤ m * 10 ^ length :=
    (Nat.le_mul_of_pos_right _ (by positivity)).trans scaled
  exact absurd (Nat.le_of_mul_le_mul_right this (by positivity)) (by omega)

section Places

variable {mantissa scale : Nat} {cs : List Char}

/-- Places are taken up without loss when some number with room for its own mantissa and places has
the same value; by induction on the places.
-/
theorem takePlaces?_exact (digits : ∀ c ∈ cs, isDigit c = true) (room : mantissa < 1 <<< 96)
    (few : scale ≤ 28) {m s : Nat} (hm : m < 1 <<< 96) (hs : s ≤ 28)
    (same : extend mantissa cs * 10 ^ s = m * 10 ^ (scale + cs.length))
    : ∃ m' s',
        takePlaces? mantissa scale cs = some (m', s')
        ∧ m' < 1 <<< 96
        ∧ s' ≤ 28
        ∧ m' * 10 ^ (scale + cs.length) = extend mantissa cs * 10 ^ s' := by
  induction cs generalizing mantissa scale with
  | nil => exact ⟨mantissa, scale, rfl, room, few, rfl⟩
  | cons c rest ih =>
      rw [List.forall_mem_cons] at digits
      obtain ⟨digit, hd⟩ := Option.isSome_iff_exists.mp digits.1
      have next := extend_cons hd mantissa rest
      have length : scale + (c :: rest).length = scale + 1 + rest.length := by
        rw [List.length_cons]
        omega
      simp only [takePlaces?, hd]
      split
      next taken =>
        rw [Bool.and_eq_true, decide_eq_true_eq, decide_eq_true_eq] at taken
        rw [next, length] at same ⊢
        exact ih digits.2 taken.2 (by omega) same
      next full =>
        rw [Bool.and_eq_true, decide_eq_true_eq, decide_eq_true_eq, not_and] at full
        -- There is no room for the place, so that the other number has no more places than this.
        have fewer : s ≤ scale := by
          by_contra more
          have large := full (by omega)
          rw [next, extend_eq, length] at same
          exact more (places_le_of_mantissa_lt (by omega) same)
        have zeros : digitsValue (c :: rest) = 0 := by
          refine eq_zero_of_mul_add_eq (a := mantissa) (k := m * 10 ^ (scale - s))
            (digitsValue_lt (c :: rest)) ?_
          rw [← extend_eq]
          refine Nat.eq_of_mul_eq_mul_right (by positivity : 0 < 10 ^ s) ?_
          rw [same, Nat.pow_add]
          nth_rewrite 1 [← Nat.sub_add_cancel fewer]
          rw [Nat.pow_add]
          ring
        have zero : digit = 0 := by
          rw [digitsValue_cons hd] at zeros
          have : digit * 10 ^ rest.length = 0 := by omega
          simpa using this
        refine ⟨mantissa, scale, by simp [roundPlace?, zero], room, few, ?_⟩
        rw [extend_eq, zeros, Nat.add_zero, Nat.pow_add]
        ring

end Places

section Numeral

variable {n : Numeral} {d : Decimal}

theorem plain?_base (n : Numeral)
    : plain? n.base.chars
      = if digitsValue n.whole < 1 <<< 96 then
          (takePlaces? (digitsValue n.whole) 0 n.places).bind fun (mantissa, scale) =>
            ofParts? (n.negative && mantissa != 0) mantissa scale
        else
          none := by
  have chars : n.base.chars = minus n.negative ++ (n.whole ++ fraction n.places) :=
    List.append_nil _
  rw [chars]
  exact plain?_minus_append n.whole_ne_nil n.isDigit_of_mem_whole n.isDigit_of_mem_places

theorem mantissa_eq (n : Numeral)
    : n.mantissa = digitsValue n.whole * 10 ^ n.places.length + digitsValue n.places := by
  rw [Numeral.mantissa, digitsValue_append, ← extend_eq]
  rfl

/-- What is written without an exponent is read as it is where a decimal number can hold it. -/
theorem plain?_base_of_holds (holds : Holds n.base.value)
    : ∃ d, plain? n.base.chars = some d ∧ d.value = n.base.value := by
  obtain ⟨m, s, fits, few, same⟩ := (holds_signedBy_iff n.base.size_nonneg).mp holds
  rw [n.size_base, div_eq_div_iff (by positivity) (by positivity)] at same
  have crossed : n.mantissa * 10 ^ s = m * 10 ^ n.places.length := by exact_mod_cast same
  have whole : digitsValue n.whole < 1 <<< 96 := by
    refine lt_of_le_of_lt ?_ fits
    refine Nat.le_of_mul_le_mul_right ?_ (by positivity : 0 < 10 ^ n.places.length)
    calc digitsValue n.whole * 10 ^ n.places.length
        ≤ n.mantissa := by
          rw [mantissa_eq]
          exact Nat.le_add_right _ _
      _ ≤ n.mantissa * 10 ^ s := Nat.le_mul_of_pos_right _ (by positivity)
      _ = m * 10 ^ n.places.length := crossed
  obtain ⟨mantissa, scale, taken, room, places, exact⟩ :=
    takePlaces?_exact n.isDigit_of_mem_places whole (Nat.zero_le 28) fits few
      (by rwa [Nat.zero_add, extend_eq, ← mantissa_eq])
  rw [Nat.zero_add, extend_eq, ← mantissa_eq] at exact
  refine ⟨⟨n.negative && mantissa != 0, mantissa, scale, room, places⟩, ?_, ?_⟩
  · rw [plain?_base, if_pos whole, taken]
    exact ofParts?_eq_some_iff.mpr ⟨rfl, rfl, rfl⟩
  · have size : (mantissa : ℚ) / 10 ^ scale = n.base.size := by
      rw [n.size_base, div_eq_div_iff (by positivity) (by positivity)]
      exact_mod_cast exact
    rw [value_eq_signedBy rfl, Decimal.size, size]
    rfl

theorem trimChars_chars (n : Numeral) : trimChars n.chars = n.chars := by
  refine trimChars_eq_self_of_forall fun c hc => ?_
  rcases Numeral.mem_chars hc with digit | rfl | rfl | rfl | rfl
  · exact isBlank_of_isDigit digit
  all_goals decide

/-- Only the point itself gets lost where a text is split at its first point; by list induction. -/
theorem mem_split_point {c : Char} {cs : List Char} (member : c ∈ cs) (other : c ≠ '.')
    : c ∈ cs.takeWhile (· != '.') ++ (cs.dropWhile (· != '.')).drop 1 := by
  induction cs with
  | nil => cases member
  | cons d rest ih =>
      by_cases point : d = '.'
      · subst point
        simpa [other] using member
      · rcases List.mem_cons.mp member with rfl | later
        · simp [other]
        · have := ih later
          simp_all

theorem isNumeral_eq_false_of_mem {cs : List Char} (mark : 'e' ∈ cs) : isNumeral cs = false := by
  cases cs with
  | nil => cases mark
  | cons c rest =>
      rcases List.mem_cons.mp mark with rfl | later
      · rfl
      · have : (rest.all fun c => isDigit c || c == '_') = false :=
          List.all_eq_false.mpr ⟨'e', later, by decide⟩
        rw [isNumeral, this, Bool.and_false]

/-- A text with an exponent mark in it is no plain number. -/
theorem plain?_eq_none_of_mem {cs : List Char} (mark : 'e' ∈ cs) : plain? cs = none := by
  have kept : 'e' ∈ (splitSign cs).2 := by
    unfold splitSign
    split <;> simp_all
  have noNumeral := isNumeral_eq_false_of_mem (mem_split_point kept (by decide))
  rw [plain?]
  simp only [noNumeral, Bool.false_and, Bool.false_eq_true, if_false]

theorem exponentSize?_digits {digits : List Char} (filled : digits ≠ [])
    (h : ∀ c ∈ digits, isDigit c = true)
    : exponentSize? digits
        = (if digitsValue digits < UInt32.size then some (digitsValue digits) else none)
      ∧ exponentSize? ('+' :: digits) = exponentSize? digits := by
  have natural := natural?_eq_some filled h
  have plain : exponentSize? digits
      = (natural? digits).bind fun n => if n < UInt32.size then some n else none := by
    obtain ⟨c, rest, rfl⟩ := List.exists_cons_of_ne_nil filled
    have digit := h c List.mem_cons_self
    unfold exponentSize?
    split
    next same => simp_all [isDigit_iff]
    next => rfl
  refine ⟨by rw [plain, natural, Option.bind_some], ?_⟩
  rw [plain]
  rfl

theorem not_isExponentMark_of_mem_base (n : Numeral)
    : ∀ c ∈ n.base.chars, (!isExponentMark c) = true := by
  intro c hc
  rcases Numeral.mem_base_chars hc with digit | rfl | rfl
  · have other (mark : Char) (h : isDigit mark = false) : c ≠ mark := by
      rintro rfl
      simp [h] at digit
    simp [isExponentMark, other 'e' rfl, other 'E' rfl]
  all_goals decide

theorem ofText?_text_of_no_exponent (h : n.exponent? = none)
    : ofText? n.text = plain? n.base.chars := by
  have chars : n.chars = n.base.chars := by
    rw [Numeral.chars_eq_base_append, h]
    exact List.append_nil _
  have after : n.base.chars.dropWhile (!isExponentMark ·) = [] := by
    rw [← List.append_nil n.base.chars,
      List.dropWhile_append_of_pos (not_isExponentMark_of_mem_base n), List.dropWhile_nil]
  rw [ofText?, Numeral.text, String.toList_ofList, trimChars_chars, chars, scientific?, after,
    Option.or_none]

/-- A number with an exponent is the number in front of it with its point shifted. -/
theorem ofText?_text_of_exponent {negative : Bool} {digits : List Char}
    (h : n.exponent? = some (negative, digits))
    : ofText? n.text
      = (plain? n.base.chars).bind fun d =>
          if digitsValue digits < UInt32.size then
            if negative then d.lowerBy? (digitsValue digits) else d.raiseBy? (digitsValue digits)
          else
            none := by
  have chars : n.chars = n.base.chars ++ 'e' :: Numeral.exponentSign negative :: digits := by
    rw [Numeral.chars_eq_base_append, h, Numeral.exponentChars]
  have free := not_isExponentMark_of_mem_base n
  obtain ⟨size, signed⟩ :=
    @exponentSize?_digits digits (n.exponent_ne_nil _ h) (n.isDigit_of_mem_exponent _ h)
  have plain : plain? n.chars = none := plain?_eq_none_of_mem (by simp [chars])
  have base : n.chars.takeWhile (!isExponentMark ·) = n.base.chars := by
    rw [chars, List.takeWhile_append_of_pos free, List.takeWhile_cons_of_neg (by decide),
      List.append_nil]
  have after
      : n.chars.dropWhile (!isExponentMark ·)
        = 'e' :: Numeral.exponentSign negative :: digits := by
    rw [chars, List.dropWhile_append_of_pos free, List.dropWhile_cons_of_neg (by decide)]
  rw [ofText?, Numeral.text, String.toList_ofList, trimChars_chars, plain, Option.none_or,
    scientific?, base, after]
  cases negative with
  | true =>
      change ((plain? n.base.chars).bind fun d => (exponentSize? digits).bind d.lowerBy?) = _
      refine Option.bind_congr fun d _ => ?_
      rw [size]
      split <;> rfl
  | false =>
      change
        ((plain? n.base.chars).bind fun d => (exponentSize? ('+' :: digits)).bind d.raiseBy?) = _
      refine Option.bind_congr fun d _ => ?_
      rw [signed, size]
      split <;> rfl

-- The exponent counts also behind places that are rounded away, and may be too great there too.
example
    : (ofText? "0.0000000000999999999999999999_9e-1").map text
        = some "0.0000000000100000000000000000"
      ∧ (ofText? "1.00000000000000000000000000000e1").map text
        = some "10.000000000000000000000000000"
      ∧ ofText? "7922816251426433759354395033.5751792765e+29" = none := by
  decide +kernel

theorem value_of_raiseBy? {result : Decimal} {exponent : Nat}
    (h : d.raiseBy? exponent = some result)
    : result.value = d.value * 10 ^ exponent := by
  unfold raiseBy? at h
  split at h
  next within =>
    obtain ⟨negative, mantissa, scale⟩ := ofParts?_eq_some_iff.mp h
    have power : (10 : ℚ) ^ d.scale = 10 ^ (d.scale - exponent) * 10 ^ exponent := by
      rw [← pow_add, Nat.sub_add_cancel within]
    rw [value, value, size, size, negative, mantissa, scale, power]
    unfold signedBy
    split <;> field_simp
  next beyond =>
    split at h
    next => cases h
    next =>
      split at h
      next zero =>
        cases h
        rw [isZero_iff.mp zero, zero_mul]
        simp [Decimal.zero, value, size, signedBy]
      next =>
        obtain ⟨negative, mantissa, scale⟩ := ofParts?_eq_some_iff.mp h
        have power : (10 : ℚ) ^ exponent = 10 ^ (exponent - d.scale) * 10 ^ d.scale := by
          rw [← pow_add, Nat.sub_add_cancel (by omega)]
        rw [value, value, size, size, negative, mantissa, scale, power, Nat.pow_eq]
        push_cast
        unfold signedBy
        split <;> field_simp

/-- The point is moved to the left with one rounding to the places that there are. -/
theorem grid_of_lowerBy? {result : Decimal} {exponent : Nat}
    (h : d.lowerBy? exponent = some result)
    : result.grid = nearestGrid (d.value / 10 ^ exponent) := by
  have shifted
      : d.value / 10 ^ exponent
        = signedBy d.negative (d.mantissa / 10 ^ (d.scale + exponent)) := by
    rw [value, size, pow_add]
    unfold signedBy
    split <;> field_simp
  unfold lowerBy? at h
  split at h
  next => cases h
  next =>
    split at h
    next =>
      obtain ⟨negative, mantissa, scale⟩ := ofParts?_eq_some_iff.mp h
      rw [shifted, ← nearestGrid_value, value, size, negative, mantissa, scale]
    next beyond =>
      obtain ⟨negative, mantissa, scale⟩ := ofParts?_eq_some_iff.mp h
      have places
          : (10 : ℚ) ^ (d.scale + exponent) = 10 ^ (d.scale + exponent - 28) * 10 ^ 28 := by
        rw [← pow_add, Nat.sub_add_cancel (by omega)]
      have rounded
          : (result.mantissa : Int)
            = round ((d.mantissa : ℚ) / 10 ^ (d.scale + exponent) * 10 ^ 28) := by
        have unit : 0 < Nat.pow 10 (d.scale + exponent - 28) := Nat.pow_pos (by decide)
        rw [mantissa, Rounding.halfUp_eq_round _ unit, places, Nat.pow_eq]
        congr 1
        push_cast
        field_simp
      have one : Nat.pow 10 (28 - result.scale) = 1 := by rw [scale]
      rw [shifted, nearestGrid_signedBy _ (by positivity), ← rounded, grid, signed, negative, one,
        Nat.mul_one]

/-- Where a shift to the left fits, so does the number that is shifted, once it has been read. -/
theorem holds_base_of_holds_div {exponent : Nat} (read : plain? n.base.chars = some d)
    (holds : Holds (n.base.value / 10 ^ exponent))
    : Holds n.base.value := by
  have shifted
      : n.base.value / 10 ^ exponent = signedBy n.negative (n.base.size / 10 ^ exponent) := by
    change signedBy n.negative n.base.size / _ = _
    unfold signedBy
    split <;> ring
  have nonneg := n.base.size_nonneg
  rw [shifted] at holds
  obtain ⟨m, s, fits, few, same⟩ := (holds_signedBy_iff (by positivity)).mp holds
  rw [div_eq_div_iff (by positivity) (by positivity)] at same
  refine (holds_signedBy_iff nonneg).mpr ?_
  rcases Nat.le_total exponent s with less | more
  · refine ⟨m, s - exponent, fits, by omega, ?_⟩
    have power : (10 : ℚ) ^ s = 10 ^ (s - exponent) * 10 ^ exponent := by
      rw [← pow_add, Nat.sub_add_cancel less]
    rw [eq_div_iff (by positivity)]
    refine mul_right_cancel₀ (by positivity : (10 : ℚ) ^ exponent ≠ 0) ?_
    rw [← same, power]
    ring
  · -- The number is whole then, and its whole part has been read.
    have whole : n.mantissa = m * 10 ^ (exponent - s) * 10 ^ n.places.length := by
      have power : (10 : ℚ) ^ exponent = 10 ^ (exponent - s) * 10 ^ s := by
        rw [← pow_add, Nat.sub_add_cancel more]
      rw [n.size_base, power, ← mul_assoc] at same
      have := mul_right_cancel₀ (by positivity : (10 : ℚ) ^ s ≠ 0) same
      rw [div_eq_iff (by positivity)] at this
      exact_mod_cast this
    have none : digitsValue n.places = 0 :=
      eq_zero_of_mul_add_eq (digitsValue_lt n.places) ((mantissa_eq n).symm.trans whole)
    rw [plain?_base] at read
    split at read
    next fits =>
      refine ⟨digitsValue n.whole, 0, fits, by omega, ?_⟩
      rw [n.size_base, mantissa_eq, none, Nat.add_zero]
      push_cast
      field_simp
    next => cases read

/-- What is read from the text of a number is the nearest decimal number when the number in front of
its exponent is one.
-/
theorem grid_of_ofText? (holds : Holds n.base.value) (read : ofText? n.text = some d)
    : d.grid = nearestGrid n.value := by
  obtain ⟨b, readBase, base⟩ := plain?_base_of_holds holds
  have value := n.value_eq_base_mul
  rw [← base] at value
  cases exponent : n.exponent? with
  | none =>
      rw [Numeral.exponent, exponent, zpow_zero, mul_one] at value
      rw [ofText?_text_of_no_exponent exponent, readBase, Option.some_inj] at read
      rw [value, nearestGrid_value, read]
  | some part =>
      obtain ⟨negative, digits⟩ := part
      rw [ofText?_text_of_exponent exponent, readBase, Option.bind_some] at read
      rw [Numeral.exponent, exponent] at value
      split at read
      next =>
        cases negative with
        | true =>
            simp only [if_true, zpow_neg, zpow_natCast, ← div_eq_mul_inv] at value read
            rw [value, grid_of_lowerBy? read]
        | false =>
            simp only [Bool.false_eq_true, if_false, zpow_natCast] at value read
            rw [value, ← value_of_raiseBy? read, nearestGrid_value]
      next => cases read

/-- The number in front of the exponent is a decimal number when the whole is read as it is. -/
theorem holds_base_of_ofText? (read : ofText? n.text = some d) (same : d.value = n.value)
    : Holds n.base.value := by
  rw [n.value_eq_base_mul] at same
  cases exponent : n.exponent? with
  | none =>
      rw [Numeral.exponent, exponent, zpow_zero, mul_one] at same
      exact ⟨d, same⟩
  | some part =>
      obtain ⟨negative, digits⟩ := part
      rw [ofText?_text_of_exponent exponent, Option.bind_eq_some_iff] at read
      obtain ⟨b, readBase, read⟩ := read
      rw [Numeral.exponent, exponent] at same
      split at read
      next =>
        cases negative with
        | true =>
            simp only [if_true, zpow_neg, zpow_natCast, ← div_eq_mul_inv] at same
            exact holds_base_of_holds_div readBase ⟨d, same⟩
        | false =>
            simp only [Bool.false_eq_true, if_false, zpow_natCast] at same read
            have base : b.value = n.base.value :=
              mul_right_cancel₀ (by positivity) ((value_of_raiseBy? read).symm.trans same)
            exact ⟨b, base⟩
      next => cases read

/-- What is read from the text of a number is this number exactly when a decimal number can hold
both this number and the number in front of its exponent.
-/
theorem value_of_ofText?_iff (read : ofText? n.text = some d)
    : d.value = n.value ↔ Holds n.base.value ∧ Holds n.value := by
  constructor
  · intro same
    exact ⟨holds_base_of_ofText? read same, ⟨d, same⟩⟩
  · intro ⟨base, holds⟩
    exact (value_eq_iff_of_nearestGrid (grid_of_ofText? base read)).mpr holds

end Numeral

end Decimal

end RecordFilter
