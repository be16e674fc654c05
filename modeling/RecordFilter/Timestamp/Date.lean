/-! Dates of the Gregorian calendar, extended to all years of a fixed range. -/

namespace RecordFilter

namespace Date

def isLeapYear (year : Int) : Bool :=
  year % 4 == 0 && (year % 100 != 0 || year % 400 == 0)

/-- The number of days of a month, counted from one; there are none in any other month. -/
def daysIn (year : Int) (month : Nat) : Nat :=
  match month with
  | 1 | 3 | 5 | 7 | 8 | 10 | 12 => 31
  | 4 | 6 | 9 | 11 => 30
  | 2 => if isLeapYear year then 29 else 28
  | _ => 0

/-- The years that can be represented. -/
def firstYear : Int := -262143

def lastYear : Int := 262142

def Valid (year : Int) (month day : Nat) : Prop :=
  firstYear ≤ year ∧ year ≤ lastYear ∧ 1 ≤ day ∧ day ≤ daysIn year month

instance (year : Int) (month day : Nat) : Decidable (Valid year month day) := by
  unfold Valid; infer_instance

end Date

structure Date where
  year : Int
  month : Nat
  day : Nat
  valid : Date.Valid year month day
deriving DecidableEq

namespace Date

def ofParts? (year : Int) (month day : Nat) : Option Date :=
  if h : Valid year month day then some ⟨year, month, day, h⟩ else none

/-- The day after, unless it lies beyond the last year. -/
def next? (date : Date) : Option Date :=
  (ofParts? date.year date.month (date.day + 1)).or <|
    (ofParts? date.year (date.month + 1) 1).or <|
      ofParts? (date.year + 1) 1 1

/-- The day before, unless it lies before the first year. -/
def previous? (date : Date) : Option Date :=
  (ofParts? date.year date.month (date.day - 1)).or <|
    (ofParts? date.year (date.month - 1) (daysIn date.year (date.month - 1))).or <|
      ofParts? (date.year - 1) 12 31

end Date

end RecordFilter
