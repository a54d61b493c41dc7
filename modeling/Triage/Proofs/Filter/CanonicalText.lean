import Triage.Proofs.Token.Lexing

namespace Triage.Filter

open Text Lexer

/-- A filter without empty parts, whose names stay names and whose contents can be quoted. -/
def Printable : Filter → Prop
  | .everything => False
  | .term name content => name.isName ∧ '"' ∉ content
  | .conj l r | .disj l r => l.Printable ∧ r.Printable
  | .neg f => f.Printable

def blank : Piece := ⟨none, [' ']⟩

def contentPiece (bare : Bool) (content : Text) : Piece :=
  if bare then token (.content none) content else token (.content (some content)) (quote content)

def termPieces (name content : Text) : List Piece :=
  if name = keywordName then [contentPiece content.isBareWord content]
  else [token .name name, token .colon [':'], contentPiece (content ≠ [] ∧ content.all isContentChar) content]

def enclose (needed : Bool) (ps : List Piece) : List Piece :=
  if needed then token .leftParen ['('] :: (ps ++ [token .rightParen [')']]) else ps

def pieces : Filter → List Piece
  | .everything => []
  | .term name content => termPieces name content
  | .conj l r => enclose (l.rank < 1) l.pieces ++ blank :: enclose (r.rank < 2) r.pieces
  | .disj l r => l.pieces ++ blank :: token .disjunction ['|', '|'] :: blank :: enclose (r.rank < 1) r.pieces
  | .neg f => token .negation ['~'] :: enclose (f.rank < 2) f.pieces

def Cuts (t : Text) (ps : List Piece) : Prop :=
  ∀ rest : Text, rest.Stops → Lexer.pieces (t ++ rest) = ps ++ Lexer.pieces rest

theorem Cuts.enclose {t : Text} {ps : List Piece} (h : Cuts t ps) (needed : Bool) :
    Cuts (parenthesiseIf needed t) (enclose needed ps) := by
  intro rest hr
  cases needed with
  | false => exact h rest hr
  | true =>
      have hclose : Stops (')' :: rest) := stops_cons (by decide) rest
      simp [parenthesiseIf, Filter.enclose, pieces_leftParen, h _ hclose, pieces_rightParen]

theorem Cuts.blank {t u : Text} {ps qs : List Piece} (h : Cuts t ps) (h' : Cuts u qs) :
    Cuts (t ++ ' ' :: u) (ps ++ blank :: qs) := by
  intro rest hr
  have hblank : Stops (' ' :: (u ++ rest)) := stops_cons (by decide) _
  rw [List.append_assoc, List.cons_append, h _ hblank, pieces_blank, h' rest hr]
  simp [Filter.blank]

theorem cuts_content {content : Text} (hq : '"' ∉ content) {rest : Text} (hr : rest.Stops) :
    let bare := content ≠ [] ∧ content.all isContentChar
    Lexer.content ((if bare then content else quote content) ++ rest) = ([contentPiece bare content], rest) := by
  by_cases h : content ≠ [] ∧ content.all isContentChar
  · simp only [contentPiece, if_pos h, decide_eq_true h, if_true]
    exact content_run h.1 (List.all_eq_true.1 h.2) hr
  · simp only [contentPiece, if_neg h, decide_eq_false h]
    exact content_quote hq rest

theorem cuts_term {name content : Text} (hn : name.isName) (hq : '"' ∉ content) :
    Cuts (printTerm name content) (termPieces name content) := by
  intro rest hr
  rw [printTerm, termPieces]
  split
  · split
    · next hb => simp [pieces_bareWord hb hr, contentPiece, hb]
    · next hb => simp [pieces_quote hq, contentPiece, hb]
  · rw [List.append_assoc, List.cons_append, pieces_name hn, cuts_content hq hr]
    rfl

theorem cuts_disjunction : Cuts ['|', '|'] [token .disjunction ['|', '|']] := fun rest _ => pieces_disjunction rest

theorem cuts_print {f : Filter} (h : f.Printable) : Cuts f.print f.pieces := by
  induction f with
  | everything => exact h.elim
  | term name content => exact cuts_term h.1 h.2
  | conj l r ihl ihr => exact ((ihl h.1).enclose _).blank ((ihr h.2).enclose _)
  | disj l r ihl ihr =>
      have hcuts := (ihl h.1).blank (cuts_disjunction.blank ((ihr h.2).enclose (r.rank < 1)))
      simpa [print, pieces] using hcuts
  | neg f ih =>
      intro rest hr
      simp [print, pieces, pieces_negation, (ih h).enclose _ rest hr]

theorem pieces_print {f : Filter} (h : f.Printable) : Lexer.pieces f.print = f.pieces := by
  have hcuts := cuts_print h [] (by simp [Stops])
  simpa [Lexer.pieces] using hcuts

end Triage.Filter
