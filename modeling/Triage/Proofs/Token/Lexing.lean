import Triage.Filter.Printer

namespace Triage

namespace Text

/-- A name can stand before a colon: a run of word characters that does not begin like a negation. -/
def isName (t : Text) : Bool :=
  match t with
  | [] => false
  | c :: _ => !isNegationSign c && t.all isWordChar

theorem isContentChar_of_isDigit {c : Char} (h : c.isDigit) : isContentChar c := by
  rw [Char.isDigit, Bool.and_eq_true, decide_eq_true_eq, decide_eq_true_eq] at h
  obtain ⟨n, hn, rfl⟩ : ∃ n < 10, c = Char.ofNat (48 + n) := by
    have hfirst : 48 ≤ c.toNat := UInt32.le_iff_toNat_le.1 h.1
    have hlast : c.toNat ≤ 57 := UInt32.le_iff_toNat_le.1 h.2
    exact ⟨c.toNat - 48, by omega, by rw [Nat.add_sub_cancel' hfirst, Char.ofNat_toNat]⟩
  have hall : ∀ n < 10, isContentChar (Char.ofNat (48 + n)) := by decide
  exact hall n hn

theorem isContentChar_of_isWordChar {c : Char} (h : isWordChar c) : isContentChar c := by
  simp only [isWordChar, Bool.and_eq_true] at h
  exact h.1

theorem isBareWord_iff (t : Text) : t.isBareWord ↔ t.isName ∧ ∀ k ∈ keywords, sameWord t k = false := by
  cases t with
  | nil => simp [isBareWord, isName]
  | cons c cs => simp [isBareWord, isName, and_assoc]

def Stops (t : Text) : Prop := ∀ c ∈ t.head?, isContentChar c = false

theorem stops_cons {c : Char} (h : isContentChar c = false) (t : Text) : Stops (c :: t) := by
  simpa [Stops] using h

theorem Stops.not_word {t : Text} (h : t.Stops) : ∀ c ∈ t.head?, isWordChar c = false := by
  intro c hc
  simp [isWordChar, h c hc]

theorem takeWhile_run {p : Char → Bool} {t rest : Text} (ht : ∀ c ∈ t, p c) (hr : ∀ c ∈ rest.head?, p c = false) :
    (t ++ rest).takeWhile p = t := by
  rw [List.takeWhile_append_of_pos ht]
  cases rest with
  | nil => simp
  | cons c cs => simp [hr c rfl]

theorem dropWhile_run {p : Char → Bool} {t rest : Text} (ht : ∀ c ∈ t, p c) (hr : ∀ c ∈ rest.head?, p c = false) :
    (t ++ rest).dropWhile p = rest := by
  rw [List.dropWhile_append_of_pos ht]
  cases rest with
  | nil => rfl
  | cons c cs => simp [hr c rfl]

end Text

namespace Lexer

open Text

theorem pieces_cons (c : Char) (cs : Text) : pieces (c :: cs) = (step c cs).1 ++ pieces (step c cs).2 := by
  rw [pieces]

theorem pieces_blank (cs : Text) : pieces (' ' :: cs) = ⟨none, [' ']⟩ :: pieces cs := by
  rw [pieces_cons]
  rfl

theorem pieces_leftParen (cs : Text) : pieces ('(' :: cs) = token .leftParen ['('] :: pieces cs := by
  rw [pieces_cons]
  rfl

theorem pieces_rightParen (cs : Text) : pieces (')' :: cs) = token .rightParen [')'] :: pieces cs := by
  rw [pieces_cons]
  rfl

theorem pieces_negation (cs : Text) : pieces ('~' :: cs) = token .negation ['~'] :: pieces cs := by
  rw [pieces_cons]
  rfl

theorem pieces_disjunction (cs : Text) : pieces ('|' :: '|' :: cs) = token .disjunction ['|', '|'] :: pieces cs := by
  rw [pieces_cons]
  rfl

theorem string_quote {t : Text} (ht : '"' ∉ t) (rest : Text) :
    string (t ++ '"' :: rest) = (token (.content (some t)) (Filter.quote t), rest) := by
  have hp : ∀ c ∈ t, (c != '"') = true := by
    intro c hc
    rw [bne_iff_ne]
    rintro rfl
    exact ht hc
  have hr : ∀ c ∈ ('"' :: rest).head?, (c != '"') = false := by simp
  simp [string, takeWhile_run hp hr, dropWhile_run hp hr, Filter.quote]

theorem pieces_quote {t : Text} (ht : '"' ∉ t) (rest : Text) :
    pieces (Filter.quote t ++ rest) = token (.content (some t)) (Filter.quote t) :: pieces rest := by
  have hs : step '"' (t ++ '"' :: rest) = ([(string (t ++ '"' :: rest)).1], (string (t ++ '"' :: rest)).2) := rfl
  have hq : Filter.quote t ++ rest = '"' :: (t ++ '"' :: rest) := by simp [Filter.quote]
  rw [hq, pieces_cons, hs, string_quote ht]
  rfl

theorem content_quote {t : Text} (ht : '"' ∉ t) (rest : Text) :
    content (Filter.quote t ++ rest) = ([token (.content (some t)) (Filter.quote t)], rest) := by
  have hq : Filter.quote t ++ rest = '"' :: (t ++ '"' :: rest) := by simp [Filter.quote]
  rw [hq, content, string_quote ht]

theorem content_run {t rest : Text} (hn : t ≠ []) (ht : ∀ c ∈ t, isContentChar c) (hr : rest.Stops) :
    content (t ++ rest) = ([token (.content none) t], rest) := by
  cases t with
  | nil => exact absurd rfl hn
  | cons c cs =>
      have hc : c ≠ '"' := by
        rintro rfl
        exact absurd (ht '"' (by simp)) (by decide)
      unfold content
      split
      · next h => exact absurd (List.cons.inj h).1 hc
      · rw [takeWhile_run ht hr, dropWhile_run ht hr]

theorem step_word {c : Char} (hc : isWordChar c) (hn : isNegationSign c = false) (cs : Text) :
    step c cs = word c cs := by
  simp only [isWordChar, isContentChar, Bool.and_eq_true, bne_iff_ne, Bool.not_eq_true'] at hc
  simp [step, hc, hn]

theorem isWordChar_of_step {c : Char} (h₁ : c ≠ '(') (h₂ : c ≠ ')') (h₃ : c ≠ '&') (h₄ : c ≠ '|') (h₅ : c ≠ ':')
    (h₆ : c ≠ '"') (hb : ¬ isBlank c) (hc : ¬ isControl c) : isWordChar c := by
  simp [isWordChar, isContentChar, h₁, h₂, h₃, h₄, h₅, h₆, hb, hc]

theorem pieces_name {t : Text} (ht : t.isName) (rest : Text) :
    pieces (t ++ ':' :: rest) =
      token .name t :: token .colon [':'] :: ((content rest).1 ++ pieces (content rest).2) := by
  cases t with
  | nil => simp [isName] at ht
  | cons c cs =>
      simp only [isName, Bool.and_eq_true, Bool.not_eq_true', List.all_cons, List.all_eq_true] at ht
      obtain ⟨hn, hc, hcs⟩ := ht
      have hr : ∀ x ∈ (':' :: rest).head?, isWordChar x = false := by
        simp [isWordChar]
      rw [List.cons_append, pieces_cons, step_word hc hn, word]
      simp [takeWhile_run hcs hr, dropWhile_run hcs hr]

theorem wordKind_of_isBareWord {t : Text} (ht : t.isBareWord) : wordKind t = .content none := by
  obtain ⟨-, hk⟩ := (isBareWord_iff t).1 ht
  have hand : t.sameWord "and".toList = false := hk _ (by simp [keywords])
  have hor : t.sameWord "or".toList = false := hk _ (by simp [keywords])
  have hnot : t.sameWord "not".toList = false := hk _ (by simp [keywords])
  rw [wordKind, hand, hor, hnot]
  rfl

theorem pieces_bareWord {t rest : Text} (ht : t.isBareWord) (hr : rest.Stops) :
    pieces (t ++ rest) = token (.content none) t :: pieces rest := by
  have hk := wordKind_of_isBareWord ht
  obtain ⟨hname, -⟩ := (isBareWord_iff t).1 ht
  cases t with
  | nil => simp [isName] at hname
  | cons c cs =>
      simp only [isName, Bool.and_eq_true, Bool.not_eq_true', List.all_cons, List.all_eq_true] at hname
      obtain ⟨hn, hc, hcs⟩ := hname
      have hcolon : ∀ x, rest ≠ ':' :: x := by
        rintro x rfl
        exact absurd (hr ':' rfl) (by decide)
      rw [List.cons_append, pieces_cons, step_word hc hn, word]
      simp only [takeWhile_run hcs hr.not_word, dropWhile_run hcs hr.not_word, hk]
      rfl

end Lexer

end Triage
