import Triage.Proofs.Text.Folding
import Triage.Proofs.Token.Lexing

namespace Triage

open Text

namespace Position

theorem advance_toLower (p : Position) (c : Char) : p.advance c.toLower = p.advance c := by
  have hfeed : c.toLower = '\n' ↔ c = '\n' := toLower_eq_iff (by decide)
  simp only [advance, hfeed, utf8Size_toLower]

@[simp] theorem advanceOver_lowerAscii (p : Position) (t : Text) : p.advanceOver t.lowerAscii = p.advanceOver t := by
  induction t generalizing p with
  | nil => rfl
  | cons c t ih => rw [lowerAscii_cons, advanceOver_cons, advanceOver_cons, advance_toLower, ih]

end Position

namespace Token

def Kind.lowerAscii : Kind → Kind
  | .content quoted => .content (quoted.map Text.lowerAscii)
  | kind => kind

@[simp] theorem Kind.label_lowerAscii (kind : Kind) : kind.lowerAscii.label = kind.label := by
  cases kind <;> rfl

@[simp] theorem Kind.isContent_lowerAscii (kind : Kind) : kind.lowerAscii.isContent = kind.isContent := by
  cases kind <;> rfl

def lowerAscii (t : Token) : Token := ⟨t.kind.lowerAscii, t.lexeme.lowerAscii, t.position⟩

@[simp] theorem kind_lowerAscii (t : Token) : t.lowerAscii.kind = t.kind.lowerAscii := rfl

@[simp] theorem lexeme_lowerAscii (t : Token) : t.lowerAscii.lexeme = t.lexeme.lowerAscii := rfl

@[simp] theorem position_lowerAscii (t : Token) : t.lowerAscii.position = t.position := rfl

@[simp] theorem span_lowerAscii (t : Token) : t.lowerAscii.span = t.span := by
  simp [span]

theorem text_lowerAscii {t : Token} (h : t.kind.isContent) : t.lowerAscii.text = t.text.lowerAscii := by
  simp only [text, literal?, kind_lowerAscii]
  cases hk : t.kind with
  | content quoted => cases quoted <;> rfl
  | _ => simp [hk, Kind.isContent] at h

end Token

namespace Lexer

def Piece.lowerAscii (p : Piece) : Piece := ⟨p.kind.map Token.Kind.lowerAscii, p.text.lowerAscii⟩

theorem caseBlind_isContentChar : CaseBlind isContentChar := Casing.apply_toLower (by decide)

theorem caseBlind_isWordChar : CaseBlind isWordChar := Casing.apply_toLower (by decide)

theorem caseBlind_isNegationSign : CaseBlind isNegationSign := Casing.apply_toLower (by decide)

theorem caseBlind_noQuote : CaseBlind (· != '"') :=
  Casing.apply_toLower (f := (· != '"')) (by decide)

def lowerCut (cut : List Piece × Text) : List Piece × Text := (cut.1.map Piece.lowerAscii, cut.2.lowerAscii)

theorem string_lowerAscii (cs : Text) :
    string cs.lowerAscii = ((string cs).1.lowerAscii, (string cs).2.lowerAscii) := by
  rw [string, string, caseBlind_noQuote.takeWhile_lowerAscii, caseBlind_noQuote.dropWhile_lowerAscii]
  cases cs.dropWhile (· != '"') with
  | nil => rfl
  | cons quote rest => simp [token, Piece.lowerAscii, Token.Kind.lowerAscii]

def bareContent (cs : Text) : List Piece × Text :=
  match cs.takeWhile isContentChar with
  | [] => ([], cs)
  | run => ([token (.content none) run], cs.dropWhile isContentChar)

theorem content_eq (cs : Text) :
    content cs =
      match dropPrefix? ['"'] cs with
      | some rest => ([(string rest).1], (string rest).2)
      | none => bareContent cs := by
  unfold content
  split
  · rfl
  · next hquote =>
      rw [dropPrefix?_eq_none hquote]
      rfl

theorem bareContent_lowerAscii (cs : Text) : bareContent cs.lowerAscii = lowerCut (bareContent cs) := by
  rw [bareContent, bareContent, caseBlind_isContentChar.takeWhile_lowerAscii,
    caseBlind_isContentChar.dropWhile_lowerAscii]
  cases cs.takeWhile isContentChar <;> rfl

theorem content_lowerAscii (cs : Text) : content cs.lowerAscii = lowerCut (content cs) := by
  rw [content_eq, content_eq, dropPrefix?_lowerAscii (by decide)]
  cases dropPrefix? ['"'] cs with
  | some rest =>
      simp only [Option.map_some, string_lowerAscii]
      rfl
  | none => exact bareContent_lowerAscii cs

theorem wordKind_lowerAscii (word : Text) : wordKind word.lowerAscii = wordKind word := by
  simp only [wordKind, sameWord_lowerAscii_left]

theorem word_eq (c : Char) (cs : Text) :
    word c cs =
      let run := c :: cs.takeWhile isWordChar
      match dropPrefix? [':'] (cs.dropWhile isWordChar) with
      | some rest => (token .name run :: token .colon [':'] :: (content rest).1, (content rest).2)
      | none => ([token (wordKind run) run], cs.dropWhile isWordChar) := by
  rw [word]
  split
  · next h =>
      rw [h]
      rfl
  · next hcolon => rw [dropPrefix?_eq_none hcolon]

theorem lowerCut_wordKind (word rest : Text) :
    lowerCut ([token (wordKind word) word], rest) =
      ([token (wordKind word) word.lowerAscii], rest.lowerAscii) := by
  have hkind : (wordKind word).lowerAscii = wordKind word := by
    unfold wordKind
    split
    · rfl
    split
    · rfl
    split <;> rfl
  simp [lowerCut, Piece.lowerAscii, token, hkind]

theorem word_lowerAscii (c : Char) (cs : Text) : word c.toLower cs.lowerAscii = lowerCut (word c cs) := by
  rw [word_eq, word_eq, caseBlind_isWordChar.takeWhile_lowerAscii, caseBlind_isWordChar.dropWhile_lowerAscii,
    dropPrefix?_lowerAscii (by decide)]
  cases dropPrefix? [':'] (cs.dropWhile isWordChar) with
  | some rest =>
      simp only [Option.map_some, content_lowerAscii]
      rfl
  | none =>
      have hkind := wordKind_lowerAscii (c :: cs.takeWhile isWordChar)
      rw [lowerAscii_cons] at hkind
      simp only [Option.map_none, hkind, lowerCut_wordKind, lowerAscii_cons]

theorem operator_lowerAscii {kind : Token.Kind} {sign : Char} (hkind : kind.lowerAscii = kind) (hsign : Caseless sign)
    (cs : Text) : operator kind sign cs.lowerAscii = lowerCut (operator kind sign cs) := by
  have hsmall : sign.toLower = sign := (toLower_eq_iff hsign).2 rfl
  cases cs with
  | nil => simp [operator, lowerCut, token, Piece.lowerAscii, hkind, hsmall]
  | cons c cs =>
      rw [lowerAscii_cons, operator, operator]
      simp only [toLower_eq_iff hsign]
      split <;> simp [lowerCut, token, Piece.lowerAscii, hkind, hsmall]

theorem ite_lowerCut {p q : Prop} [Decidable p] [Decidable q] {a b a' b' : List Piece × Text} (h : p ↔ q)
    (ha : q → a = lowerCut a') (hb : b = lowerCut b') : (if p then a else b) = lowerCut (if q then a' else b') := by
  by_cases hq : q
  · rw [if_pos (h.2 hq), if_pos hq, ha hq]
  · rw [if_neg (mt h.1 hq), if_neg hq, hb]

theorem step_lowerAscii (c : Char) (cs : Text) : step c.toLower cs.lowerAscii = lowerCut (step c cs) := by
  have hoperator {kind : Token.Kind} {sign : Char} (hkind : kind.lowerAscii = kind) (hsign : Caseless sign)
      (hc : c = sign) : operator kind c.toLower cs.lowerAscii = lowerCut (operator kind c cs) := by
    rw [(toLower_eq_iff hsign).2 hc, hc]
    exact operator_lowerAscii hkind hsign cs
  have hstring : ([(string cs.lowerAscii).1], (string cs.lowerAscii).2) = lowerCut ([(string cs).1], (string cs).2) := by
    rw [string_lowerAscii]
    rfl
  rw [step, step]
  refine ite_lowerCut (toLower_eq_iff (by decide)) (fun _ => rfl) ?_
  refine ite_lowerCut (toLower_eq_iff (by decide)) (fun _ => rfl) ?_
  refine ite_lowerCut (toLower_eq_iff (by decide)) (hoperator rfl (by decide)) ?_
  refine ite_lowerCut (toLower_eq_iff (by decide)) (hoperator rfl (by decide)) ?_
  refine ite_lowerCut (by rw [caseBlind_isNegationSign c]) (fun _ => rfl) ?_
  refine ite_lowerCut (toLower_eq_iff (by decide)) (fun _ => rfl) ?_
  refine ite_lowerCut (toLower_eq_iff (by decide)) (fun _ => hstring) ?_
  refine ite_lowerCut (by rw [caseBlind_isBlank c]) (fun _ => rfl) ?_
  refine ite_lowerCut (by rw [caseBlind_isControl c]) (fun _ => rfl) ?_
  exact word_lowerAscii c cs

theorem pieces_lowerAscii (t : Text) : pieces t.lowerAscii = (pieces t).map Piece.lowerAscii := by
  fun_induction pieces t with
  | case1 => simp [pieces]
  | case2 c cs ih =>
      rw [lowerAscii_cons, pieces_cons, step_lowerAscii, List.map_append, ← ih]
      rfl

theorem locate_lowerAscii (p : Position) (ps : List Piece) :
    locate p (ps.map Piece.lowerAscii) = (locate p ps).map Token.lowerAscii := by
  induction ps generalizing p with
  | nil => rfl
  | cons q ps ih =>
      obtain ⟨kind, text⟩ := q
      cases kind <;> simp [Piece.lowerAscii, Token.lowerAscii, locate, ih]

end Lexer

namespace Token

theorem scan_lowerAscii (source : Text) : scan source.lowerAscii = (scan source).map lowerAscii := by
  rw [scan, scan, Lexer.pieces_lowerAscii, Lexer.locate_lowerAscii]

theorem finish_lowerAscii (source : Text) : finish source.lowerAscii = (finish source).lowerAscii := by
  rw [finish, Position.advanceOver_lowerAscii]
  rfl

theorem all_lowerAscii (source : Text) : all source.lowerAscii = (all source).map lowerAscii := by
  rw [all, all, scan_lowerAscii, finish_lowerAscii, List.map_append]
  rfl

end Token

end Triage
