import RecordFilter.Proofs.Text.Digits
import RecordFilter.Proofs.Timestamp.Order
import RecordFilter.Proofs.Traversal
import RecordFilter.Timestamp.Printer
import RecordFilter.Timestamp.Reader

/-! Instants are read back from their text if their year has four digits, as the instants that the
text shows: a second that runs past its end has no other name than the next one, unless it is the
last of a minute. With a sign in front of the year the text is no date and time with an offset, and
the letter Z at its end fits nothing else.
-/

namespace RecordFilter.Timestamp

open RecordFilter.Text

theorem isDigit_of_mem_head?_cons {c : Char} {rest : List Char} (h : isDigit c = false)
    : ∀ c' ∈ (c :: rest).head?, isDigit c' = false := by
  intro c' hc
  cases hc
  exact h

section Numbers

variable {least greatest width n : Nat} {digits rest : List Char}

/-- A run of digits that is neither too short nor too long is read as its value. -/
theorem number?_append (all : ∀ c ∈ digits, isDigit c = true) (hl : least ≤ digits.length)
    (hg : digits.length ≤ greatest) (stop : ∀ c ∈ rest.head?, isDigit c = false)
    : number? least greatest (digits ++ rest) = some (digitsValue digits, rest) := by
  have run : ((digits ++ rest).take greatest).takeWhile isDigit = digits := by
    rw [List.take_append, List.take_of_length_le hg]
    refine (span_digits_append all fun c hc => stop c ?_).1
    cases rest with
    | nil => simp at hc
    | cons first rest =>
        rw [List.head?_take] at hc
        split at hc
        · cases hc
        · exact hc
  rw [number?, run, if_pos hl, List.drop_left]

theorem number?_of_sign {c : Char} (h : isDigit c = false) (hl : 0 < least)
    : number? least greatest (c :: rest) = none := by
  have run : ((c :: rest).take greatest).takeWhile isDigit = [] := by
    cases greatest with
    | zero => rfl
    | succ greatest => simp [h]
  rw [number?, run, List.length_nil, if_neg (Nat.not_le.mpr hl)]

theorem number?_padded (hw : 0 < width) (hn : n < Nat.pow 10 width)
    (stop : ∀ c ∈ rest.head?, isDigit c = false)
    : number? width width (padded width n ++ rest) = some (n, rest) := by
  have length := length_padded_of_lt hw hn
  rw [number?_append (fun c hc => isDigit_of_mem_padded hc) (Nat.le_of_eq length.symm)
    (Nat.le_of_eq length) stop, digitsValue_padded]

theorem number?_two (hn : n < 100) (stop : ∀ c ∈ rest.head?, isDigit c = false)
    : number? 2 2 (padded 2 n ++ rest) = some (n, rest) :=
  number?_padded (by decide) hn stop

theorem trimStart_padded_append : trimStart (padded width n ++ rest) = padded width n ++ rest :=
  trimStart_eq_self fun c hc => isBlank_of_isDigit (isDigit_of_mem_head?_padded_append c hc)

theorem short?_padded (hn : n < 100) (stop : ∀ c ∈ rest.head?, isDigit c = false)
    : short? (padded 2 n ++ rest) = some (n, rest) := by
  have length : (padded 2 n).length = 2 := length_padded_of_lt (by decide) hn
  rw [short?, trimStart_padded_append, number?_append (fun c hc => isDigit_of_mem_padded hc)
    (by omega) (by omega) stop, digitsValue_padded]

theorem after?_cons (c : Char) (rest : List Char) : after? c (c :: rest) = some rest := by
  rw [after?, if_pos rfl]

/-- Where the first characters hold no hyphen, none follows a number of up to four digits. -/
theorem after?_of_number? {cs : List Char} (free : ∀ c ∈ cs.take 5, c ≠ '-')
    (read : number? least 4 cs = some (n, rest))
    : after? '-' rest = none := by
  unfold number? at read
  dsimp only at read
  split at read
  next =>
    have same := (Prod.mk.inj (Option.some.inj read)).2
    have short : ((cs.take 4).takeWhile isDigit).length ≤ 4 :=
      Nat.le_trans (List.takeWhile_prefix _).length_le (List.length_take_le ..)
    cases rest with
    | nil => rfl
    | cons c rest =>
        have next : (cs.take 5)[((cs.take 4).takeWhile isDigit).length]? = some c := by
          rw [List.getElem?_take_of_lt (by omega), ← List.head?_drop, same, List.head?_cons]
        rw [after?, if_neg (free c (List.mem_of_getElem? next))]
  next => cases read

/-- Decimals of a second count nanoseconds however many of the nine places they take. -/
theorem decimals?_padded (hw : 0 < width) (hm : width ≤ 9) (hn : n < Nat.pow 10 width)
    (stop : ∀ c ∈ rest.head?, isDigit c = false)
    : decimals? ('.' :: (padded width n ++ rest)) = some (n * Nat.pow 10 (9 - width), rest) := by
  have length := length_padded_of_lt hw hn
  have run : (padded width n ++ rest).takeWhile isDigit = padded width n :=
    (span_digits_append (fun c hc => isDigit_of_mem_padded hc) stop).1
  have nine
      : (padded width n ++ List.replicate 8 '0').take 9
        = padded width n ++ List.replicate (9 - width) '0' := by
    rw [List.take_append, length, List.take_of_length_le (by omega), List.take_replicate]
    congr 2
    omega
  simp only [decimals?, run, List.isEmpty_iff, padded_ne_nil, if_false, nine, List.drop_left]
  rw [digitsValue_append, digitsValue_padded, foldl_zeros rfl]

end Numbers

/-- The decimals that are written for nanoseconds are read as these nanoseconds. -/
theorem decimals?_decimalChars {nano : Nat} (h : nano < 1000000000)
    : decimals? (decimalChars nano ++ ['Z']) = some (nano, ['Z']) := by
  have stop : ∀ c ∈ ['Z'].head?, isDigit c = false := isDigit_of_mem_head?_cons rfl
  unfold decimalChars
  split
  next zero =>
    rw [zero]
    rfl
  next =>
    split
    next millis =>
      rw [List.cons_append, decimals?_padded (by decide) (by decide)
        (show nano / 1000000 < 1000 by omega) stop]
      change some (nano / 1000000 * 1000000, ['Z']) = some (nano, ['Z'])
      congr 2
      omega
    next =>
      split
      next micros =>
        rw [List.cons_append, decimals?_padded (by decide) (by decide)
          (show nano / 1000 < 1000000 by omega) stop]
        change some (nano / 1000 * 1000, ['Z']) = some (nano, ['Z'])
        congr 2
        omega
      next =>
        rw [List.cons_append, decimals?_padded (by decide) (by decide) h stop]
        change some (nano * 1, ['Z']) = some (nano, ['Z'])
        rw [Nat.mul_one]

section Parts

variable (t : Timestamp)

/-- The time of day as it is written, with the letter at its end. -/
def timeChars : List Char :=
  padded 2 t.hour
  ++ ':' :: (padded 2 t.minute
    ++ ':' :: (padded 2 (t.second + t.nano / 1000000000)
      ++ (decimalChars (t.nano % 1000000000) ++ ['Z'])))

/-- The date after its year, and the time. -/
def afterYear : List Char :=
  '-' :: (padded 2 t.date.month ++ '-' :: (padded 2 t.date.day ++ 'T' :: t.timeChars))

theorem chars_eq : t.chars = yearChars t.date.year ++ t.afterYear := by
  simp [chars, afterYear, timeChars, List.append_assoc]

theorem month_lt : t.date.month < 100 := by
  have := t.date.bounds
  omega

theorem day_lt : t.date.day < 100 := by
  have := t.date.bounds
  omega

theorem hour_lt : t.hour < 100 :=
  Nat.lt_trans t.valid.1 (by decide)

theorem minute_lt : t.minute < 100 :=
  Nat.lt_trans t.valid.2.1 (by decide)

theorem second_lt : t.second + t.nano / 1000000000 < 100 := by
  obtain ⟨_, _, hs, hn⟩ := t.valid
  omega

theorem head?_decimalChars_append (nano : Nat)
    : ∀ c ∈ (decimalChars nano ++ ['Z']).head?, isDigit c = false := by
  intro c hc
  unfold decimalChars at hc
  repeat' split at hc
  all_goals cases hc; decide

/-- A second before the last one of a minute runs past its end. -/
def Overruns (t : Timestamp) : Prop :=
  1000000000 ≤ t.nano ∧ t.second ≠ 59

instance : Decidable t.Overruns := by
  unfold Overruns; infer_instance

/-- The instant that the text of an instant shows: what runs past the end of a second belongs to the
next one there, while the last second of a minute has its own name for it.
-/
def shown (t : Timestamp) : Timestamp :=
  if h : t.Overruns then
    { t with
      second := t.second + 1
      nano := t.nano - 1000000000
      valid := by
        obtain ⟨hh, hm, hs, hn⟩ := t.valid
        obtain ⟨past, early⟩ := h
        exact ⟨hh, hm, by omega, by omega⟩ }
  else
    t

/-- A text shows another instant than its own exactly where a second is shown as the next one. -/
theorem shown_eq_self_iff : t.shown = t ↔ ¬t.Overruns := by
  constructor
  · intro same overruns
    have second : t.second + 1 = t.second := by
      have := congrArg Timestamp.second same
      rwa [shown, dif_pos overruns] at this
    omega
  · exact fun settled => dif_neg settled

/-- The parts of the time are read as those of the instant that is shown. -/
theorem ofParts?_eq_some
    : ofParts? t.date t.hour t.minute (t.second + t.nano / 1000000000) (t.nano % 1000000000)
      = some t.shown := by
  obtain ⟨hh, hm, hs, hn⟩ := t.valid
  by_cases overruns : t.Overruns
  · -- The next second of the same minute is not the sixtieth.
    obtain ⟨past, early⟩ := id overruns
    have second : t.second + t.nano / 1000000000 = t.second + 1 := by omega
    have nano : t.nano % 1000000000 = t.nano - 1000000000 := by omega
    have plain : t.second + 1 ≠ 60 := by omega
    have valid : ValidTime t.hour t.minute (t.second + 1) (t.nano - 1000000000) :=
      ⟨hh, hm, by omega, by omega⟩
    simp only [ofParts?, second, nano, if_neg plain, valid, shown, overruns, dite_true]
  · rw [t.shown_eq_self_iff.mpr overruns]
    -- In a leap second the nanoseconds run on, and the second is written as the sixtieth.
    by_cases leap : 1000000000 ≤ t.nano
    · have last : 59 = t.second := by
        by_contra early
        exact overruns ⟨leap, Ne.symm early⟩
      have second : t.second + t.nano / 1000000000 = 60 := by omega
      have nano : t.nano % 1000000000 + 1000000000 = t.nano := by omega
      simp only [ofParts?, second, if_true, nano, last, t.valid, dite_true]
    · have second : t.second + t.nano / 1000000000 = t.second := by omega
      have nano : t.nano % 1000000000 = t.nano := by omega
      have plain : t.second ≠ 60 := by omega
      simp only [ofParts?, second, nano, if_neg plain, t.valid, dite_true]

/-- An instant that is already universal time stays where it is. -/
theorem addMinutes?_zero : t.addMinutes? 0 = some t := by
  obtain ⟨hh, hm, _⟩ := t.valid
  have hour : (((t.hour : Int) * 60 + t.minute + 0) % 1440).toNat / 60 = t.hour := by omega
  have minute : (((t.hour : Int) * 60 + t.minute + 0) % 1440).toNat % 60 = t.minute := by omega
  have early : ¬ (t.hour : Int) * 60 + t.minute + 0 < 0 := by omega
  have late : (t.hour : Int) * 60 + t.minute + 0 < 1440 := by omega
  simp only [addMinutes?, if_neg early, if_pos late, hour, minute, Option.bind_eq_bind,
    Option.bind_some, t.valid, dite_true]

theorem isBlank_of_mem_chars : ∀ c ∈ t.chars, isBlank c = false := by
  have digits (width n : Nat) : (padded width n).all (!isBlank ·) = true := by
    rw [List.all_eq_true]
    intro c hc
    rw [isBlank_of_isDigit (isDigit_of_mem_padded hc)]
    rfl
  have marks
      : isBlank '-' = false ∧ isBlank '+' = false ∧ isBlank 'T' = false ∧ isBlank ':' = false
        ∧ isBlank '.' = false ∧ isBlank 'Z' = false := by
    decide
  have year : (yearChars t.date.year).all (!isBlank ·) = true := by
    unfold yearChars
    repeat' split
    all_goals simp only [List.all_cons, digits, marks, Bool.not_false, Bool.and_self]
  have decimals : (decimalChars (t.nano % 1000000000)).all (!isBlank ·) = true := by
    unfold decimalChars
    repeat' split
    all_goals simp only [List.all_nil, List.all_cons, digits, marks, Bool.not_false, Bool.and_self]
  have all : t.chars.all (!isBlank ·) = true := by
    simp only [chars_eq, afterYear, timeChars, List.all_append, List.all_cons, List.all_nil, year,
      decimals, digits, marks, Bool.not_false, Bool.and_self]
  intro c hc
  simpa using List.all_eq_true.mp all c hc

/-- A year is read back with its sign, if it has one. -/
theorem year?_yearChars_append {year : Int} {rest : List Char}
    : year? (yearChars year ++ '-' :: rest) = some (year, '-' :: rest) := by
  have digits : ∀ c ∈ padded 4 year.natAbs, isDigit c = true :=
    fun c hc => isDigit_of_mem_padded hc
  have least : 1 ≤ (padded 4 year.natAbs).length := by
    rw [length_padded]
    omega
  have stop : ∀ c ∈ ('-' :: rest).head?, isDigit c = false := isDigit_of_mem_head?_cons rfl
  have read {greatest : Nat} (h : (padded 4 year.natAbs).length ≤ greatest)
      : number? 1 greatest (padded 4 year.natAbs ++ '-' :: rest)
        = some (year.natAbs, '-' :: rest) := by
    rw [number?_append digits least h stop, digitsValue_padded]
  -- After a sign any number of digits is read, without one there are four.
  unfold yearChars
  split
  next negative =>
    have value : -(year.natAbs : Int) = year := by omega
    have trimmed : trimStart ('-' :: (padded 4 year.natAbs ++ '-' :: rest))
        = '-' :: (padded 4 year.natAbs ++ '-' :: rest) := rfl
    rw [List.cons_append, year?, trimmed]
    simp only
    rw [read (by simp), Option.map_some, value]
  next =>
    split
    next small =>
      have value : (year.natAbs : Int) = year := by omega
      have length : (padded 4 year.natAbs).length = 4 :=
        length_padded_of_lt (by decide) (show year.natAbs < 10000 by omega)
      have first := @isDigit_of_mem_head?_padded_append 4 year.natAbs ('-' :: rest)
      rw [year?, trimStart_padded_append]
      split
      next same => simp [same, isDigit_iff] at first
      next same => simp [same, isDigit_iff] at first
      next =>
        rw [read (by omega), Option.map_some]
        simp only [value]
    next =>
      have value : (year.natAbs : Int) = year := by omega
      have trimmed : trimStart ('+' :: (padded 4 year.natAbs ++ '-' :: rest))
          = '+' :: (padded 4 year.natAbs ++ '-' :: rest) := rfl
      rw [List.cons_append, year?, trimmed]
      simp only
      rw [read (by simp), Option.map_some, value]

theorem ofParts?_date : Date.ofParts? t.date.year t.date.month t.date.day = some t.date := by
  rw [Date.ofParts?, dif_pos t.date.valid]

/-- A year of four digits and what follows it are read as the instant that is shown. -/
theorem zoned?_chars (hl : 0 ≤ t.date.year) (hg : t.date.year ≤ 9999)
    : zoned? t.chars = some t.shown := by
  have hyphen : isDigit '-' = false := rfl
  have letter : isDigit 'T' = false := rfl
  have colon : isDigit ':' = false := rfl
  have year : t.date.year.natAbs < 10000 := by omega
  have value : (t.date.year.natAbs : Int) = t.date.year := by omega
  have written : yearChars t.date.year = padded 4 t.date.year.natAbs := by
    rw [yearChars, if_neg (by omega), if_pos hg]
  have afterT (cs : List Char)
      : ((after? 'T' ('T' :: cs)).or <| (after? 't' ('T' :: cs)).or <| after? ' ' ('T' :: cs))
        = some cs := by
    rw [after?_cons, Option.some_or]
  rw [chars_eq, written, afterYear, timeChars, zoned?]
  -- One step for each part, in the order in which they are read.
  refine (bind_of_eq_some (number?_padded (by decide) year
    (isDigit_of_mem_head?_cons hyphen)) _).trans ?_
  refine (bind_of_eq_some (after?_cons '-' _) _).trans ?_
  refine (bind_of_eq_some (number?_two t.month_lt (isDigit_of_mem_head?_cons hyphen)) _).trans ?_
  refine (bind_of_eq_some (after?_cons '-' _) _).trans ?_
  refine (bind_of_eq_some (number?_two t.day_lt (isDigit_of_mem_head?_cons letter)) _).trans ?_
  refine (bind_of_eq_some (afterT t.timeChars) _).trans ?_
  refine (bind_of_eq_some (number?_two t.hour_lt (isDigit_of_mem_head?_cons colon)) _).trans ?_
  refine (bind_of_eq_some (after?_cons ':' _) _).trans ?_
  refine (bind_of_eq_some (number?_two t.minute_lt (isDigit_of_mem_head?_cons colon)) _).trans ?_
  refine (bind_of_eq_some (after?_cons ':' _) _).trans ?_
  refine (bind_of_eq_some (number?_two t.second_lt (head?_decimalChars_append _)) _).trans ?_
  refine (bind_of_eq_some (decimals?_decimalChars (Nat.mod_lt t.nano (by decide))) _).trans ?_
  refine (bind_of_eq_some (show offset? ['Z'] = some (0, []) from rfl) _).trans ?_
  refine (bind_of_eq_some (value ▸ t.ofParts?_date) _).trans ?_
  exact (bind_of_eq_some t.ofParts?_eq_some _).trans t.shown.addMinutes?_zero

/-- A text that begins with a sign has no year of four digits. -/
theorem zoned?_sign {c : Char} {rest : List Char} (h : isDigit c = false)
    : zoned? (c :: rest) = none := by
  rw [zoned?, number?_of_sign h (by decide)]
  rfl

theorem date?_chars : date? t.chars = some (t.date, 'T' :: t.timeChars) := by
  have hyphen : isDigit '-' = false := rfl
  have letter : isDigit 'T' = false := rfl
  rw [chars_eq, afterYear, date?]
  refine (bind_of_eq_some year?_yearChars_append _).trans ?_
  refine (bind_of_eq_some (after?_cons '-' _) _).trans ?_
  refine (bind_of_eq_some (short?_padded t.month_lt (isDigit_of_mem_head?_cons hyphen)) _).trans ?_
  refine (bind_of_eq_some (after?_cons '-' _) _).trans ?_
  refine (bind_of_eq_some (short?_padded t.day_lt (isDigit_of_mem_head?_cons letter)) _).trans ?_
  exact bind_of_eq_some t.ofParts?_date _

/-- A time without an offset does not end in a letter. -/
theorem timeOn?_timeChars (date : Date) : timeOn? date t.timeChars = none := by
  have colon : isDigit ':' = false := rfl
  rw [timeChars, timeOn?]
  refine (bind_of_eq_some (short?_padded t.hour_lt (isDigit_of_mem_head?_cons colon)) _).trans ?_
  refine (bind_of_eq_some (after?_cons ':' _) _).trans ?_
  refine (bind_of_eq_some (short?_padded t.minute_lt (isDigit_of_mem_head?_cons colon)) _).trans ?_
  refine (bind_of_eq_some (after?_cons ':' _) _).trans ?_
  refine (bind_of_eq_some (short?_padded t.second_lt (head?_decimalChars_append _)) _).trans ?_
  -- The letter is left over.
  exact bind_of_eq_some (decimals?_decimalChars (Nat.mod_lt t.nano (by decide))) _

/-- The year is written with four digits and without a sign. -/
def HasPlainYear : Prop :=
  0 ≤ t.date.year ∧ t.date.year ≤ 9999

instance : Decidable t.HasPlainYear := by
  unfold HasPlainYear; infer_instance

/-- The text of an instant is read as the instant that it shows if the year is plain, and not at all
otherwise.
-/
theorem ofText?_text : ofText? t.text = if t.HasPlainYear then some t.shown else none := by
  rw [ofText?, text, String.toList_ofList, trimChars_eq_self_of_forall t.isBlank_of_mem_chars]
  by_cases four : t.HasPlainYear
  · rw [if_pos four, t.zoned?_chars four.1 four.2, Option.some_or]
  · -- None of the four readings succeeds: the first one stumbles over the sign of the year, the
    -- others over the letters in the middle or at the end.
    have zoned : zoned? t.chars = none := by
      rw [chars_eq]
      unfold yearChars
      split
      next => exact zoned?_sign rfl
      next nonneg =>
        rw [if_neg (fun small => four ⟨by omega, small⟩)]
        exact zoned?_sign rfl
    have marked : marked? t.chars = none := by
      simp only [marked?, date?_chars, Option.bind_eq_bind, Option.bind_some, after?_cons,
        timeOn?_timeChars]
    have spaced : spaced? t.chars = none := by
      have letter : trimStart ('T' :: t.timeChars) = 'T' :: t.timeChars := rfl
      simp only [spaced?, date?_chars, Option.bind_eq_bind, Option.bind_some, letter, timeOn?,
        short?, number?_of_sign (show isDigit 'T' = false from rfl) (show 0 < 1 by decide),
        Option.bind_none]
    have midnight : midnight? t.chars = none := by
      simp only [midnight?, date?_chars, Option.bind_eq_bind, Option.bind_some, List.isEmpty_cons,
        Bool.not_false, if_true]
      rfl
    rw [if_neg four, zoned, marked, spaced, midnight]
    rfl

/-- The text of an instant stands for the instant that it shows, if it stands for any. -/
theorem eq_shown_of_ofText? {u : Timestamp} (read : ofText? t.text = some u) : u = t.shown := by
  rw [ofText?_text] at read
  split at read
  next => exact (Option.some.inj read).symm
  next => cases read

/-- An instant is read back as itself exactly if its text is read at all and shows no other one. -/
theorem ofText?_text_eq_self_iff : ofText? t.text = some t ↔ t.HasPlainYear ∧ ¬t.Overruns := by
  rw [ofText?_text, ← t.shown_eq_self_iff]
  by_cases plain : t.HasPlainYear
  · rw [if_pos plain, Option.some.injEq]
    exact (and_iff_right plain).symm
  · rw [if_neg plain]
    exact iff_of_false (by simp) fun both => plain both.1

end Parts

section Foreign

variable {cs : List Char}

/-- A text whose first characters are neither hyphens nor signs nor blanks has no year. -/
theorem date?_eq_none (free : ∀ c ∈ cs.take 5, c ≠ '-' ∧ c ≠ '+' ∧ isBlank c = false)
    : date? cs = none := by
  have first : ∀ c ∈ cs.head?, c ≠ '-' ∧ c ≠ '+' ∧ isBlank c = false := by
    intro c hc
    refine free c (List.mem_of_mem_head? ?_)
    rwa [List.head?_take, if_neg (by decide)]
  rw [date?, year?, trimStart_eq_self fun c hc => (first c hc).2.2]
  split
  next => exact absurd rfl (first '-' rfl).1
  next => exact absurd rfl (first '+' rfl).2.1
  next =>
    cases read : number? 1 4 cs with
    | none => rfl
    | some part =>
        have none := after?_of_number? (fun c hc => (free c hc).1) read
        simp [none]

theorem zoned?_eq_none (free : ∀ c ∈ cs.take 5, c ≠ '-') : zoned? cs = none := by
  rw [zoned?]
  cases read : number? 4 4 cs with
  | none => rfl
  | some part =>
      obtain ⟨year, rest⟩ := part
      have none := after?_of_number? free read
      change (after? '-' rest).bind _ = Option.none
      rw [none]
      rfl

/-- Such a text without blanks around it is no instant. -/
theorem ofText?_eq_none {text : String} (trimmed : trimChars text.toList = text.toList)
    (free : ∀ c ∈ text.toList.take 5, c ≠ '-' ∧ c ≠ '+' ∧ isBlank c = false)
    : ofText? text = none := by
  have noDate := date?_eq_none free
  have noZone := zoned?_eq_none fun c hc => (free c hc).1
  rw [ofText?, trimmed]
  simp only [noZone, marked?, spaced?, midnight?, noDate]
  rfl

end Foreign

end RecordFilter.Timestamp
