import Triage.Text.Basic

/-!
The lines of the text that a report is about. More characters than the line feed end a line here, and every character of
the text belongs to a line, those that end one included.
-/

namespace Triage.Report

def isLineBreak (c : Char) : Bool :=
  c == '\n' || c == '\r' || c == '\x0b' || c == '\x0c' || c == '\u0085' || c == '\u2028' || c == '\u2029'

/-- The lines of a text with the breaks that end them; a carriage return and a line feed are one break. -/
def pieces : Text → List Text
  | [] => []
  | '\r' :: '\n' :: cs => ['\r', '\n'] :: pieces cs
  | c :: cs =>
    if isLineBreak c then [c] :: pieces cs
    else
      match pieces cs with
      | [] => [[c]]
      | l :: ls => (c :: l) :: ls

structure Line where
  number : Nat
  start : Nat
  stop : Nat
  /-- What the line shows: its text without the blanks at its end. -/
  shown : Text
  deriving DecidableEq, Repr

namespace Line

def holds (line : Line) (offset : Nat) : Bool := line.start ≤ offset && offset < line.stop

def enumerate (number start : Nat) : List Text → List Line
  | [] => []
  | t :: ts =>
    let stop := start + t.length
    ⟨number, start, stop, t.trimEnd⟩ :: enumerate (number + 1) stop ts

/-- The lines of a text. The empty text has one. -/
def ofText (source : Text) : List Line :=
  match pieces source with
  | [] => [⟨1, 0, 0, []⟩]
  | ts => enumerate 1 0 ts

def numberAt (offset : Nat) (lines : List Line) : Nat := (lines.takeWhile (·.start ≤ offset)).length

end Line

end Triage.Report
