import Triage.Report.Margin
import Triage.Text.Width

/-!
Drawing a report: each line with labels, and below it the labels from left to right, every message on a row of its own.
Lines without labels are left out; one row shows where.
-/

namespace Triage.Report

/-- The columns of a character that stands behind `place` others. A tab goes on to the next multiple of four, in
characters; every other blank takes one column. -/
def columns (c : Char) (place : Nat) : Nat :=
  if c = '\t' then 4 - place % 4 else if Text.isBlank c then 1 else Text.width c

def glyph (c : Char) : Char := if Text.isBlank c then ' ' else c

structure Cell where
  place : Nat
  columns : Nat
  marks : List (Mark × Nat)
  /-- The shortest of the labels that are underlined here. -/
  underlined : Option Placed
  deriving Repr

namespace Cell

def ofPlace (line : Line) (marking : Marking) (shown? : Option Char) (place : Nat) : Cell :=
  let flat := marking.marks.filter fun m => !m.placed.isTall && m.placed.covers (line.start + place)
  { place := place
    columns := shown?.elim 1 (Report.columns · place)
    marks := marking.marks.zipIdx.filter fun (m, _) => m.column == place && !Mark.isOf marking.pointer m.placed
    underlined := first? Placed.shorter (flat.map (·.placed)) }

def ofLine (line : Line) (marking : Marking) : List Cell :=
  let reach := marking.reach line
  let shown := line.shown.map some ++ List.replicate (reach - line.shown.length) none
  (shown.take reach).zipIdx.map fun (shown?, place) => ofPlace line marking shown? place

def stem? (c : Cell) (mark : Nat) : Option Mark := (c.marks.find? fun (_, index) => mark ≤ index).map (·.1)

def fill (c : Cell) (head tail : Stroke) : List Stroke :=
  if c.columns = 0 then [] else head :: List.replicate (c.columns - 1) tail

/-- A cell above the message of a mark. Labels are underlined above the first message only. -/
def stemStrokes (c : Cell) (mark : Nat) : List Stroke :=
  let underlined := if mark = 0 then c.underlined else none
  match c.stem? mark, underlined with
  | some m, some _ => c.fill (.ofChar '┬' m.placed.ink) (.ofChar '─' m.placed.ink)
  | some m, none =>
    c.fill (.ofChar (if m.placed.isTall && mark = 0 then '🭯' else '│') m.placed.ink) (.ofChar ' ' m.placed.ink)
  | none, some p => c.fill (.ofChar '─' p.ink) (.ofChar '─' p.ink)
  | none, none => c.fill .blank .blank

/-- A cell of the row with the message of a mark. The row leads from the mark to the message, and from the bracket to
the mark if the label is tall. -/
def messageStrokes (c : Cell) (marking : Marking) (mark : Mark) (index : Nat) : List Stroke :=
  let ink := mark.placed.ink
  let isBar := ((mark.column < c.place) ^^ mark.placed.isTall) || (mark.hasMessage && mark.column < c.place)
  if c.place = mark.column && !Mark.isOf marking.pointer mark.placed then
    let corner := if !mark.placed.isTall then '╰' else if mark.hasMessage then '┴' else '╯'
    c.fill (.ofChar corner ink) (.ofChar '─' ink)
  else if isBar then c.fill (.ofChar '─' ink) (.ofChar '─' ink)
  else
    match c.stem? index with
    | some m => c.fill (.ofChar '│' m.placed.ink) (.ofChar ' ' ink)
    | none => c.fill .blank .blank

end Cell

/-- The text of a line, each character in the ink of the shortest label on it. -/
def textStrokes (brackets : List Placed) (line : Line) (marking : Marking) : List Stroke :=
  let labels := marking.pointer.toList.map (·.placed) ++ brackets ++ marking.marks.map (·.placed)
  line.shown.zipIdx.flatMap fun (c, place) =>
    let label := first? Placed.shorter (labels.filter (·.covers (line.start + place)))
    let stroke := Stroke.ofChar (glyph c) (label.elim (some .plain) Placed.ink)
    if Text.isBlank c then List.replicate (columns c place) stroke else [stroke]

def lineRows (gutter : Nat) (brackets : List Placed) (line : Line) (marking : Marking) : List (List Stroke) :=
  let start (row : Row) := marginStrokes gutter line row ++ bracketStrokes brackets line marking row
  let cells := Cell.ofLine line marking
  (start .text ++ textStrokes brackets line marking) ::
    marking.marks.zipIdx.flatMap fun (m, index) => [
      start (.stems index) ++ cells.flatMap (·.stemStrokes index),
      start (.message index) ++ cells.flatMap (·.messageStrokes marking m index) ++
        if m.hasMessage then [⟨' ' :: m.placed.label.message, none⟩] else []]

/-- The rows of some lines, after lines that were left out or not. One row stands for all the lines that are left out at
one place. -/
def bodyRows (gutter : Nat) (labels brackets : List Placed) : (afterGap : Bool) → List Line → List (List Stroke)
  | _, [] => []
  | afterGap, line :: lines =>
    let marking := Marking.ofLine labels brackets line
    if !marking.isEmpty then lineRows gutter brackets line marking ++ bodyRows gutter labels brackets false lines
    else
      let rest := bodyRows gutter labels brackets true lines
      if afterGap then rest
      else if brackets.any (·.covers line.start) then
        (marginStrokes gutter line .elision ++ bracketStrokes brackets line marking .elision) :: rest
      else sideStrokes gutter '│' :: rest

def rows (r : Report) : List (List Stroke) :=
  let lines := Line.ofText r.source
  let labels := r.labels.zipIdx.map fun (l, index) => Placed.ofLabel lines l index
  let start := (labels.map (·.label.start)).min?.getD 0
  let stop := (labels.map (·.label.stop)).max?.getD 0
  let first := Line.numberAt start lines
  let last := Line.numberAt (max start (stop - 1)) lines
  let gutter := (Text.ofNat last).length
  let frame (c : Char) : Stroke := .ofChar c (some .frame)
  [[⟨r.title, some (.ofKind r.kind)⟩, ⟨" Invalid filter".toList, none⟩],
    [.spaces (gutter + 2), frame '╭', frame '─', frame '[', ⟨" filter:1:1 ".toList, none⟩, frame ']'],
    [.spaces (gutter + 2), frame '│']] ++
  bodyRows gutter labels (bracketsOf labels) false
    (lines.filter fun line => first ≤ line.number && line.number ≤ last) ++
  [[⟨List.replicate (gutter + 2) '─' ++ ['╯'], some .frame⟩]]

def render (r : Report) : Text := r.rows.flatMap (writeRow r.colored)

def lines (r : Report) : List Text := (Text.lines r.render).map fun t => (t.reverse.dropWhile (· == ' ')).reverse

end Triage.Report
