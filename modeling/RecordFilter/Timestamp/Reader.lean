import RecordFilter.Text.Blank
import RecordFilter.Timestamp.Basic

/-! Reading instants. A full date and time with an offset is tried first; without an offset the
text is taken as universal time, and a date alone as its midnight.
-/

namespace RecordFilter.Timestamp

open RecordFilter.Text

/-- A number of as many digits as there are, from the least number of them up to the greatest. -/
def number? (least greatest : Nat) (cs : List Char) : Option (Nat × List Char) :=
  let digits := (cs.take greatest).takeWhile isDigit
  if least ≤ digits.length then
    some (digitsValue digits, cs.drop digits.length)
  else
    none

/-- The text after one character. -/
def after? (expected : Char) : List Char → Option (List Char)
  | [] => none
  | c :: rest => if c = expected then some rest else none

/-- The decimals of a second, if there is a point; those after the ninth are passed over. -/
def decimals? : List Char → Option (Nat × List Char)
  | '.' :: rest =>
      let digits := rest.takeWhile isDigit
      if digits.isEmpty then
        none
      else
        some (digitsValue ((digits ++ List.replicate 8 '0').take 9), rest.drop digits.length)
  | cs => some (0, cs)

/-- Minutes east of Greenwich: the letter Z, or a sign, hours, a colon and minutes. -/
def offset? (cs : List Char) : Option (Int × List Char) := do
  let (sign, rest) : Int × List Char ←
    match cs with
    | '+' :: rest => some (1, rest)
    | '-' :: rest => some (-1, rest)
    | '\u2212' :: rest => some (-1, rest)
    | c :: rest => if c = 'Z' || c = 'z' then some (0, rest) else none
    | [] => none
  if sign = 0 then
    return (0, rest)
  let (hours, rest) ← number? 2 2 rest
  let rest ← after? ':' rest
  let (minutes, rest) ← number? 2 2 rest
  if hours < 24 && minutes < 60 then
    return (sign * (hours * 60 + minutes), rest)
  none

/-- Date, time and offset, each number with its full count of digits. -/
def zoned? (cs : List Char) : Option Timestamp := do
  let (year, cs) ← number? 4 4 cs
  let cs ← after? '-' cs
  let (month, cs) ← number? 2 2 cs
  let cs ← after? '-' cs
  let (day, cs) ← number? 2 2 cs
  let cs ← (after? 'T' cs).or <| (after? 't' cs).or <| after? ' ' cs
  let (hour, cs) ← number? 2 2 cs
  let cs ← after? ':' cs
  let (minute, cs) ← number? 2 2 cs
  let cs ← after? ':' cs
  let (second, cs) ← number? 2 2 cs
  let (nano, cs) ← decimals? cs
  let (offset, cs) ← offset? cs
  if !cs.isEmpty then
    none
  let date ← Date.ofParts? year month day
  let t ← ofParts? date hour minute second nano
  t.addMinutes? (-offset)

/-- A number of at most two digits, with blanks before it. -/
def short? (cs : List Char) : Option (Nat × List Char) :=
  number? 1 2 (trimStart cs)

/-- A year of at most four digits, or of any number of digits after a sign. -/
def year? (cs : List Char) : Option (Int × List Char) :=
  match trimStart cs with
  | '-' :: rest => (number? 1 rest.length rest).map fun (year, rest) => (-(year : Int), rest)
  | '+' :: rest => (number? 1 rest.length rest).map fun (year, rest) => ((year : Int), rest)
  | cs => (number? 1 4 cs).map fun (year, rest) => ((year : Int), rest)

/-- A date whose numbers may lack digits. -/
def date? (cs : List Char) : Option (Date × List Char) := do
  let (year, cs) ← year? cs
  let cs ← after? '-' cs
  let (month, cs) ← short? cs
  let cs ← after? '-' cs
  let (day, cs) ← short? cs
  return (← Date.ofParts? year month day, cs)

/-- A time whose numbers may lack digits, up to the end of the text. -/
def timeOn? (date : Date) (cs : List Char) : Option Timestamp := do
  let (hour, cs) ← short? cs
  let cs ← after? ':' cs
  let (minute, cs) ← short? cs
  let cs ← after? ':' cs
  let (second, cs) ← short? cs
  let (nano, cs) ← decimals? cs
  if !cs.isEmpty then
    none
  ofParts? date hour minute second nano

/-- Date and time with the letter T between them. -/
def marked? (cs : List Char) : Option Timestamp := do
  let (date, cs) ← date? cs
  timeOn? date (← after? 'T' cs)

/-- Date and time with blanks between them or nothing. -/
def spaced? (cs : List Char) : Option Timestamp := do
  let (date, cs) ← date? cs
  timeOn? date (trimStart cs)

/-- A date alone. -/
def midnight? (cs : List Char) : Option Timestamp := do
  let (date, cs) ← date? cs
  if !cs.isEmpty then
    none
  ofParts? date 0 0 0 0

/-- The first reading that succeeds, with blanks around the text. -/
def ofText? (text : String) : Option Timestamp :=
  let cs := trimChars text.toList
  (zoned? cs).or <| (marked? cs).or <| (spaced? cs).or <| midnight? cs

end RecordFilter.Timestamp
