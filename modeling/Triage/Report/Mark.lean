import Triage.Report
import Triage.Report.Line
import Triage.Report.Stroke

/-!
Where the labels of a report are attached: one within a line below its middle, one over several lines at its first and
at its last character. The tall ones run along the text in brackets, the longest leftmost.
-/

namespace Triage.Report

def first? {α : Type} (before : α → α → Bool) : List α → Option α
  | [] => none
  | x :: xs => some (xs.foldl (fun best y => if before y best then y else best) x)

structure Placed where
  index : Nat
  label : Label
  isTall : Bool
  deriving DecidableEq, Repr

namespace Placed

def last (p : Placed) : Nat := max p.label.start (p.label.stop - 1)

def length (p : Placed) : Nat := p.label.stop - p.label.start

def covers (p : Placed) (offset : Nat) : Bool := p.label.start ≤ offset && offset < p.label.stop

def ink (p : Placed) : Option Ink := some (.ofKind p.label.kind)

def same (p q : Placed) : Bool := p.index == q.index

def shorter (p q : Placed) : Bool := p.length < q.length

def ofLabel (lines : List Line) (label : Label) (index : Nat) : Placed :=
  let tall := label.start < label.stop && Line.numberAt label.start lines != Line.numberAt (label.stop - 1) lines
  ⟨index, label, tall⟩

end Placed

def bracketsOf (labels : List Placed) : List Placed :=
  (labels.filter (·.isTall)).mergeSort fun p q => q.length ≤ p.length

structure Mark where
  column : Nat
  placed : Placed
  /-- Whether the message belongs to this mark. A tall label has it at its end. -/
  hasMessage : Bool
  deriving DecidableEq, Repr

namespace Mark

/-- Marks go from left to right, and of two at one column that of the later start comes first. -/
def before (m n : Mark) : Bool :=
  m.column < n.column || m.column == n.column && n.placed.label.start < m.placed.label.start

def sort (marks : List Mark) : List Mark := marks.mergeSort fun m n => !n.before m

def isOf (mark? : Option Mark) (p : Placed) : Bool := mark?.any (·.placed.same p)

def atStart (line : Line) (p : Placed) : Mark := ⟨p.label.start - line.start, p, false⟩

def atEnd (line : Line) (p : Placed) : Mark := ⟨p.last - line.start, p, true⟩

def atMiddle (line : Line) (p : Placed) : Mark := ⟨(p.label.start + p.label.stop) / 2 - line.start, p, true⟩

def ofTall? (line : Line) (p : Placed) : Option Mark :=
  if line.holds p.label.start then some (atStart line p)
  else if line.holds p.last then some (atEnd line p)
  else none

end Mark

structure Marking where
  pointer : Option Mark
  marks : List Mark
  deriving Repr

namespace Marking

/-- The pointer is the first mark of a tall label. If it is at the end of its label, it is below the line as well,
because the message stands there. -/
def ofLine (labels brackets : List Placed) (line : Line) : Marking :=
  let tall := brackets.filterMap (Mark.ofTall? line)
  let pointer := first? Mark.before tall
  let flat := labels.filter fun p => !p.isTall && line.start ≤ p.label.start && p.label.stop ≤ line.stop
  ⟨pointer, Mark.sort (tall.filter (fun m => m.hasMessage || !Mark.isOf pointer m.placed) ++
    flat.map (Mark.atMiddle line))⟩

def isEmpty (m : Marking) : Bool := m.pointer.isNone && m.marks.isEmpty

/-- How far the rows below a line go: two columns beyond its labels, or beyond its end if one of them is tall. -/
def reach (m : Marking) (line : Line) : Nat :=
  let ends := m.marks.map fun n => if n.placed.isTall then line.stop else n.placed.label.stop
  ends.foldl max line.start - line.start + 2

end Marking

end Triage.Report
