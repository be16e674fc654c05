import RecordFilter.Timestamp.Basic

/-! The text of an instant: date, time and the letter Z, with as few decimals of a second as lose
nothing.
-/

namespace RecordFilter.Timestamp

open RecordFilter.Text

/-- Four digits; a year that needs more, or comes before the year zero, has a sign. -/
def yearChars (year : Int) : List Char :=
  if year < 0 then
    '-' :: padded 4 year.natAbs
  else if year ≤ 9999 then
    padded 4 year.natAbs
  else
    '+' :: padded 4 year.natAbs

/-- No decimals, or three, six or nine. -/
def decimalChars (nano : Nat) : List Char :=
  if nano = 0 then
    []
  else if nano % 1000000 = 0 then
    '.' :: padded 3 (nano / 1000000)
  else if nano % 1000 = 0 then
    '.' :: padded 6 (nano / 1000)
  else
    '.' :: padded 9 nano

/-- A second that runs past its end is written as the next one, which is the sixtieth at the end of
a minute.
-/
def chars (t : Timestamp) : List Char :=
  yearChars t.date.year
  ++ '-' :: padded 2 t.date.month
  ++ '-' :: padded 2 t.date.day
  ++ 'T' :: padded 2 t.hour
  ++ ':' :: padded 2 t.minute
  ++ ':' :: padded 2 (t.second + t.nano / 1000000000)
  ++ decimalChars (t.nano % 1000000000)
  ++ ['Z']

def text (t : Timestamp) : String :=
  String.ofList t.chars

end RecordFilter.Timestamp
