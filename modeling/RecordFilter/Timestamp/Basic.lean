import RecordFilter.Text.Digits
import RecordFilter.Timestamp.Date

/-! Instants of universal time with nanoseconds. The nanoseconds of a second may run past its end,
by less than a second; a leap second runs past the end of the last second of a minute.
-/

namespace RecordFilter

namespace Timestamp

/-- A time of day; any second can run past its end. -/
def ValidTime (hour minute second nano : Nat) : Prop :=
  hour < 24 ∧ minute < 60 ∧ second < 60 ∧ nano < 2000000000

instance (hour minute second nano : Nat) : Decidable (ValidTime hour minute second nano) := by
  unfold ValidTime; infer_instance

end Timestamp

structure Timestamp where
  date : Date
  hour : Nat
  minute : Nat
  second : Nat
  nano : Nat
  valid : Timestamp.ValidTime hour minute second nano
deriving DecidableEq

namespace Timestamp

/-- The instant of a date and a time as they are written, where second 60 is the leap second. -/
def ofParts? (date : Date) (hour minute second nano : Nat) : Option Timestamp :=
  let (second, nano) := if second = 60 then (59, nano + 1000000000) else (second, nano)
  if h : ValidTime hour minute second nano then
    some ⟨date, hour, minute, second, nano, h⟩
  else
    none

/-- A number that grows with time. -/
def rank (t : Timestamp) : Int :=
  let days := (t.date.year * 12 + t.date.month) * 32 + t.date.day
  let seconds := ((days * 24 + t.hour) * 60 + t.minute) * 60 + t.second
  seconds * 2000000000 + t.nano

def compare (left right : Timestamp) : Ordering :=
  Ord.compare left.rank right.rank

/-- Moves an instant by less than a day, given in minutes. -/
def addMinutes? (t : Timestamp) (minutes : Int) : Option Timestamp := do
  let total : Int := t.hour * 60 + t.minute + minutes
  let date ←
    if total < 0 then
      t.date.previous?
    else if total < 1440 then
      some t.date
    else
      t.date.next?
  let minuteOfDay := (total % 1440).toNat
  let hour := minuteOfDay / 60
  let minute := minuteOfDay % 60
  if h : ValidTime hour minute t.second t.nano then
    some ⟨date, hour, minute, t.second, t.nano, h⟩
  else
    none

end Timestamp

end RecordFilter
