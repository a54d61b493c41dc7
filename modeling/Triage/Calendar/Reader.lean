import Triage.Calendar.Timestamp

/-!
Reading dates and timestamps. Numbers need no padding and may have blanks before them. A date within a filter is read
strictly (`Date.read?`); dates and timestamps of a document may have blanks around their marks too
(`Date.readLoose?`, `Timestamp.read?`).
-/

namespace Triage

namespace Calendar

abbrev Reader (α : Type) := StateT Text Option α

namespace Reader

def skipBlanks : Reader Unit := modify Text.trimStart

def char (accepted : Char → Bool) : Reader Unit
  | [] => none
  | c :: cs => if accepted c then some ((), cs) else none

def literal (c : Char) : Reader Unit := char (· == c)

def digits (most : Nat) : Reader Text := fun t => Text.leadingDigits? most t

def number (most : Nat) : Reader Nat := do
  skipBlanks
  return Text.digitsValue (← digits most)

/-- A year has up to four digits, or a sign and any number of digits. -/
def year : Reader Int := do
  skipBlanks
  match ← get with
  | '-' :: rest =>
    set rest
    return -Int.ofNat (Text.digitsValue (← digits rest.length))
  | '+' :: rest =>
    set rest
    return Int.ofNat (Text.digitsValue (← digits rest.length))
  | _ => return Int.ofNat (Text.digitsValue (← digits 4))

/-- Year, month and day with hyphens between them; `gap` is what may stand before a hyphen. -/
def date (gap : Reader Unit) : Reader Date := do
  let y ← year
  gap
  literal '-'
  let m ← number 2
  gap
  literal '-'
  let d ← number 2
  Date.ofYmd? y m d

/-- Decimal places of a second in billionths; digits after the ninth are left out. -/
def fraction : Reader Nat := do
  match ← get with
  | '.' :: rest =>
    set rest
    let places ← digits 9
    modify (·.dropWhile Char.isDigit)
    return Text.digitsValue places * Nat.pow 10 (9 - places.length)
  | _ => return 0

def pair : Reader Nat
  | a :: b :: rest => if a.isDigit && b.isDigit then some (Text.digitsValue [a, b], rest) else none
  | _ => none

/-- Hours and minutes ahead of universal time, in seconds, less than a day either way. -/
def signedOffset : Reader Int := do
  let negative ←
    match ← get with
    | '+' :: _ => pure false
    | '-' :: _ | '\u2212' :: _ => pure true
    | _ => failure
  modify List.tail
  let hours ← pair
  modify (·.dropWhile fun c => c == ':' || Text.isBlank c)
  let minutes ← pair
  let seconds := Int.ofNat (hours * 3600 + minutes * 60)
  if minutes < 60 ∧ hours < 24 then return if negative then -seconds else seconds else failure

def offset : Reader Int := do
  let t ← get
  if Text.sameWord (t.take 3) "utc".toList then
    set (t.drop 3)
    return 0
  match t with
  | 'Z' :: rest | 'z' :: rest =>
    set rest
    return 0
  | _ => signedOffset

/-- A date, a time of day and an offset. Second 60 is the leap second that follows second 59. -/
def timestamp : Reader Timestamp := do
  let d ← date skipBlanks
  char fun c => c == 'T' || c == 't' || c == ' '
  let hour ← number 2
  skipBlanks
  literal ':'
  let minute ← number 2
  skipBlanks
  literal ':'
  let second ← number 2
  let nano ← fraction
  skipBlanks
  let ahead ← offset
  skipBlanks
  if hour < 24 ∧ minute < 60 ∧ second ≤ 60 then
    let start := hour * 3600 + minute * 60
    if second = 60 then Timestamp.ofLocal? d (start + 59) (nano + nanosPerSecond) ahead
    else Timestamp.ofLocal? d (start + second) nano ahead
  else failure

def whole? {α : Type} (r : Reader α) (t : Text) : Option α :=
  match r.run t with
  | some (a, []) => some a
  | _ => none

end Reader

end Calendar

open Calendar

def Date.read? (t : Text) : Option Date := (Reader.date (pure ())).whole? t.trim

def Date.readLoose? (t : Text) : Option Date :=
  Reader.whole? (do let d ← Reader.date Reader.skipBlanks; Reader.skipBlanks; return d) t

def Timestamp.read? (t : Text) : Option Timestamp := Reader.timestamp.whole? t

end Triage
