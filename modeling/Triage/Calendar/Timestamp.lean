import Triage.Calendar.Date

/-!
Instants of universal time: a date, a second of the day and a part of that second. A leap second is counted as a second
part of one second or more in the last second of a minute.
-/

namespace Triage

namespace Calendar

def nanosPerSecond : Nat := 1000000000

def secondsPerDay : Nat := 86400

def IsTime (second nano : Nat) : Prop :=
  second < secondsPerDay ∧ (nano < nanosPerSecond ∨ (second % 60 = 59 ∧ nano < 2 * nanosPerSecond))

instance (second nano : Nat) : Decidable (IsTime second nano) :=
  inferInstanceAs (Decidable (_ ∧ _))

end Calendar

open Calendar

structure Timestamp where
  date : Date
  second : Nat
  nano : Nat
  valid : IsTime second nano
  deriving DecidableEq, Repr

namespace Timestamp

instance : Ord Timestamp where
  compare a b :=
    (compare a.date b.date).then ((compare a.second b.second).then (compare a.nano b.nano))

def midnight (d : Date) : Timestamp := ⟨d, 0, 0, by decide⟩

def ofTime? (date : Date) (second nano : Nat) : Option Timestamp :=
  if h : IsTime second nano then some ⟨date, second, nano, h⟩ else none

def ofUnix? (seconds : Int) (nano : Nat) : Option Timestamp :=
  (Date.ofDayNumber? (seconds / secondsPerDay + 719163)).bind (ofTime? · (seconds % secondsPerDay).toNat nano)

/-- The instant of a clock that shows the given date and second and runs `ahead` seconds before universal time. -/
def ofLocal? (date : Date) (second nano : Nat) (ahead : Int) : Option Timestamp :=
  let utc := Int.ofNat second - ahead
  if utc < 0 then date.previous?.bind (ofTime? · (utc + secondsPerDay).toNat nano)
  else if utc < secondsPerDay then ofTime? date utc.toNat nano
  else date.next?.bind (ofTime? · (utc - secondsPerDay).toNat nano)

/-- The seconds by which `later` is past `earlier`. A leap second between two times of day counts. -/
def secondsBetween (earlier later : Timestamp) : Int :=
  let days := later.date.dayNumber - earlier.date.dayNumber
  let leap : Int :=
    if earlier.second < later.second ∧ nanosPerSecond ≤ earlier.nano then 1
    else if later.second < earlier.second ∧ nanosPerSecond ≤ later.nano then -1
    else 0
  days * secondsPerDay + (Int.ofNat later.second - Int.ofNat earlier.second) + leap

def nanosBetween (earlier later : Timestamp) : Int :=
  secondsBetween earlier later * nanosPerSecond + (Int.ofNat later.nano - Int.ofNat earlier.nano)

/-- The whole hours in the time between; a part of an hour is left out on either side of zero. -/
def hoursBetween (earlier later : Timestamp) : Int :=
  (nanosBetween earlier later).tdiv (3600 * nanosPerSecond)

/-- The shortest of no, three, six or nine decimal places that is exact. -/
def fractionText (nano : Nat) : Text :=
  if nano = 0 then []
  else if nano % 1000000 = 0 then '.' :: Text.ofNatPadded 3 (nano / 1000000)
  else if nano % 1000 = 0 then '.' :: Text.ofNatPadded 6 (nano / 1000)
  else '.' :: Text.ofNatPadded 9 nano

def write (t : Timestamp) : Text :=
  let two := Text.ofNatPadded 2
  t.date.write ++ 'T' :: two (t.second / 3600) ++ ':' :: two (t.second / 60 % 60) ++
    ':' :: two (t.second % 60 + t.nano / nanosPerSecond) ++ fractionText (t.nano % nanosPerSecond) ++ ['Z']

end Timestamp

end Triage
