import Triage.Report.Mark
import Triage.Text.Numeral

namespace Triage.Report

inductive Row where
  | text
  | elision
  /-- The row above the message of a mark, with the lines that lead down to the marks from there on. -/
  | stems (mark : Nat)
  | message (mark : Nat)
  deriving DecidableEq, Repr

structure Crossing where
  /-- A bracket that turns towards the text, and whether it begins there. -/
  corner : Option (Placed × Bool) := none
  bar : Option Placed := none
  stem : Option Placed := none
  /-- The bracket that points at the line, by whether it begins there. -/
  arrow : Option Bool := none
  deriving Repr

namespace Crossing

def down (c : Crossing) (own : Bool) (p : Placed) : Crossing :=
  { c with stem := c.stem <|> if own then some p else none }

def add (line : Line) (marking : Marking) (row : Row) (c : Crossing) (own : Bool) (p : Placed) : Crossing :=
  let starts := line.holds p.label.start
  let ends := line.holds p.last
  let points := Mark.isOf marking.pointer p
  let below (mark : Nat) (isMessage : Bool) : Crossing :=
    let place := (marking.marks.findIdx? (·.placed.same p)).getD 0
    if !starts && !ends then c.down own p
    else if mark ≠ place then c.down (own && (starts ^^ decide (mark < place))) p
    else
      let c := if points then { c with stem := if own then some p else none } else c
      if points && starts then c
      else if isMessage then { c with bar := some p, corner := if own then some (p, starts) else c.corner }
      else if starts then c
      else c.down own p
  if line.stop < p.label.start || p.label.stop ≤ line.start then c
  else
    match row with
    | .stems mark => below mark false
    | .message mark => below mark true
    | .text | .elision =>
      if points then { c with arrow := some starts }
      else if starts then c
      else c.down own p

def strokes (c : Crossing) (pointer : Option Mark) (row : Row) (own? : Option Placed) : List Stroke :=
  let pair (left right : Char) (p : Placed) : List Stroke := [.ofChar left p.ink, .ofChar right p.ink]
  match c.corner, c.bar, c.stem, c.arrow, pointer with
  | some (p, starts), _, _, _, _ => pair (if starts then '╭' else '╰') '─' p
  | none, some p, _, _, _ => pair '─' '─' p
  | none, none, some p, _, _ => [.ofChar (if row = .elision then '┆' else '│') p.ink, .blank]
  | none, none, none, some starts, some m =>
    match own? with
    | none => pair '▶' ' ' m.placed
    | some p => pair (if !m.placed.same p then '─' else if starts then '╭' else '├') '─' m.placed
  | _, _, _, _, _ => [.blank, .blank]

end Crossing

def bracketStrokes (brackets : List Placed) (line : Line) (marking : Marking) (row : Row) : List Stroke :=
  if brackets = [] then []
  else
    (List.range (brackets.length + 1)).flatMap fun column =>
      let crossing : Crossing := (brackets.take (column + 1)).zipIdx.foldl
        (fun c (p, index) => Crossing.add line marking row c (index == column) p) {}
      crossing.strokes marking.pointer row brackets[column]?

def sideStrokes (gutter : Nat) (edge : Char) : List Stroke :=
  [.blank, ⟨List.replicate (gutter + 1) ' ' ++ [edge], some .margin⟩, .blank]

def marginStrokes (gutter : Nat) (line : Line) (row : Row) : List Stroke :=
  match row with
  | .text => [.blank, ⟨Text.padLeft gutter (Text.ofNat line.number) ++ " │".toList, some .frame⟩, .blank]
  | .elision => sideStrokes gutter '┆'
  | .stems _ | .message _ => sideStrokes gutter '│'

end Triage.Report
