import Mathlib.Data.List.TakeWhile
import Triage.Proofs.Token.Lexing

namespace Triage

open Text

def Token.Kind.Fits : Token.Kind → Text → Prop
  | .name, t => t.isName
  | .content none, t => t ≠ [] ∧ ∀ c ∈ t, isContentChar c
  | .content (some inner), t => '"' ∉ inner ∧ t = Filter.quote inner
  | _, _ => True

def Token.Kind.IsSign : Token.Kind → Prop
  | .leftParen | .rightParen | .colon | .conjunction | .disjunction | .negation | .fault .controlCharacter => True
  | _ => False

namespace Lexer

theorem wordKind_cases (t : Text) : (wordKind t).IsSign ∨ wordKind t = .content none := by
  rw [wordKind]
  split
  · exact .inl trivial
  split
  · exact .inl trivial
  split
  · exact .inl trivial
  · exact .inr rfl

theorem wordKind_ne_fault (t : Text) (cause : LexicalFault) : wordKind t ≠ .fault cause := by
  rw [wordKind]
  split
  · simp
  split
  · simp
  split <;> simp

theorem operator_eq (k : Token.Kind) (sign : Char) (cs : Text) :
    ∃ t rest, operator k sign cs = ([token k t], rest) ∧ t ≠ [] := by
  unfold operator
  split
  · split
    · exact ⟨_, _, rfl, List.cons_ne_nil _ _⟩
    · exact ⟨_, _, rfl, List.cons_ne_nil _ _⟩
  · exact ⟨_, _, rfl, List.cons_ne_nil _ _⟩

theorem step_elim {P : List Piece × Text → Prop} {c : Char} {cs : Text}
    (hsign : ∀ k t rest, k.IsSign → t ≠ [] → (k = .fault .controlCharacter → t = [c] ∧ isControl c) →
      P ([token k t], rest))
    (hblank : isBlank c → P ([⟨none, [c]⟩], cs)) (hstring : P ([(string cs).1], (string cs).2))
    (hword : isWordChar c → isNegationSign c = false → P (word c cs)) : P (step c cs) := by
  have hsingle {k : Token.Kind} (hk : k.IsSign) (hfault : k ≠ .fault .controlCharacter) : P ([token k [c]], cs) :=
    hsign k [c] cs hk (List.cons_ne_nil _ _) fun h => absurd h hfault
  have hoperator {k : Token.Kind} (hk : k.IsSign) (hfault : k ≠ .fault .controlCharacter) : P (operator k c cs) := by
    obtain ⟨t, rest, heq, ht⟩ := operator_eq k c cs
    rw [heq]
    exact hsign k t rest hk ht fun h => absurd h hfault
  rw [step]
  split
  · exact hsingle trivial (by simp)
  split
  · exact hsingle trivial (by simp)
  split
  · exact hoperator trivial (by simp)
  split
  · exact hoperator trivial (by simp)
  split
  · exact hsingle trivial (by simp)
  split
  · exact hsingle trivial (by simp)
  split
  · exact hstring
  split
  · next hb => exact hblank hb
  split
  · next hc => exact hsign _ _ _ trivial (List.cons_ne_nil _ _) fun _ => ⟨rfl, hc⟩
  · next h₁ h₂ h₃ h₄ hn h₅ h₆ hb hc =>
      exact hword (isWordChar_of_step h₁ h₂ h₃ h₄ h₅ h₆ hb hc) (by simpa using hn)

def Piece.Fits (p : Piece) : Prop := ∀ k, p.kind = some k → k.Fits p.text

theorem fits_token {k : Token.Kind} {t : Text} (h : k.Fits t) : (token k t).Fits := by
  rintro k' ⟨⟩
  exact h

theorem fits_of_isSign {k : Token.Kind} (h : k.IsSign) (t : Text) : k.Fits t := by
  cases k with
  | name | content quoted | finish => exact h.elim
  | _ => trivial

theorem quote_not_mem_takeWhile (cs : Text) : '"' ∉ cs.takeWhile (· != '"') := by
  intro h
  simpa using List.mem_takeWhile_imp h

theorem fits_string (cs : Text) : (string cs).1.Fits := by
  rw [string]
  split
  · exact fits_token trivial
  · next quote rest h =>
      have hq : quote = '"' := by
        have hhead := List.head?_dropWhile_not (· != '"') cs
        rw [h] at hhead
        simpa using hhead
      exact fits_token ⟨quote_not_mem_takeWhile cs, by rw [hq, Filter.quote]⟩

theorem fits_content (cs : Text) : ∀ p ∈ (content cs).1, p.Fits := by
  unfold content
  split
  · next rest =>
      intro p hp
      rw [List.mem_singleton.1 hp]
      exact fits_string rest
  · split
    · simp
    · next hrun =>
        intro p hp
        rw [List.mem_singleton.1 hp]
        exact fits_token ⟨hrun, fun c hc => List.mem_takeWhile_imp hc⟩

theorem fits_wordKind {t : Text} (hn : t ≠ []) (ht : ∀ c ∈ t, isContentChar c) : (wordKind t).Fits t := by
  rcases wordKind_cases t with hsign | hcontent
  · exact fits_of_isSign hsign t
  · rw [hcontent]
    exact ⟨hn, ht⟩

theorem fits_word {c : Char} (hc : isWordChar c) (hn : isNegationSign c = false) (cs : Text) :
    ∀ p ∈ (word c cs).1, p.Fits := by
  have hrun : ∀ x ∈ c :: cs.takeWhile isWordChar, isWordChar x := by
    intro x hx
    rcases List.mem_cons.1 hx with rfl | hx
    · exact hc
    · exact List.mem_takeWhile_imp hx
  have hname : isName (c :: cs.takeWhile isWordChar) := by
    simp only [isName, hn, Bool.not_false, Bool.true_and]
    exact List.all_eq_true.2 hrun
  rw [word]
  split
  · next rest _ =>
      intro p hp
      rcases List.mem_cons.1 hp with rfl | hp
      · exact fits_token hname
      · rcases List.mem_cons.1 hp with rfl | hp
        · exact fits_token trivial
        · exact fits_content rest p hp
  · intro p hp
    rw [List.mem_singleton.1 hp]
    exact fits_token (fits_wordKind (by simp) fun x hx => isContentChar_of_isWordChar (hrun x hx))

theorem fits_step (c : Char) (cs : Text) : ∀ p ∈ (step c cs).1, p.Fits := by
  apply step_elim (P := fun cut => ∀ p ∈ cut.1, p.Fits)
  case hsign =>
    intro k t _ hk _ _ p hp
    rw [List.mem_singleton.1 hp]
    exact fits_token (fits_of_isSign hk t)
  case hblank =>
    intro _ p hp
    rw [List.mem_singleton.1 hp]
    simp [Piece.Fits]
  case hstring =>
    intro p hp
    rw [List.mem_singleton.1 hp]
    exact fits_string cs
  case hword =>
    intro hc hn
    exact fits_word hc hn cs

theorem fits_pieces (t : Text) : ∀ p ∈ pieces t, p.Fits := by
  fun_induction pieces t with
  | case1 => simp
  | case2 c cs ih =>
      intro p hp
      rcases List.mem_append.1 hp with hp | hp
      · exact fits_step c cs p hp
      · exact ih p hp

theorem locate_append (p : Position) (ps qs : List Piece) :
    locate p (ps ++ qs) = locate p ps ++ locate (p.advanceOver (join ps)) qs := by
  induction ps generalizing p with
  | nil => rfl
  | cons q ps ih =>
      obtain ⟨kind, text⟩ := q
      cases kind <;> simp [locate, ih, Position.advanceOver_append]

theorem exists_of_locate_eq_append {ps : List Piece} {p : Position} {before after : List Token} {t : Token}
    (h : locate p ps = before ++ t :: after) :
    ∃ qs rs, ps = qs ++ token t.kind t.lexeme :: rs ∧ t.position = p.advanceOver (join qs) ∧
      after = locate (t.position.advanceOver t.lexeme) rs := by
  induction ps generalizing p before with
  | nil => simp [locate] at h
  | cons q ps ih =>
      obtain ⟨kind, text⟩ := q
      have hlater {before : List Token} (h : locate (p.advanceOver text) ps = before ++ t :: after) :
          ∃ qs rs, ⟨kind, text⟩ :: ps = qs ++ token t.kind t.lexeme :: rs ∧ t.position = p.advanceOver (join qs) ∧
            after = locate (t.position.advanceOver t.lexeme) rs := by
        obtain ⟨qs, rs, rfl, hp, hafter⟩ := ih h
        exact ⟨⟨kind, text⟩ :: qs, rs, rfl, by rw [hp, join_cons, Position.advanceOver_append], hafter⟩
      cases kind with
      | none => exact hlater h
      | some k =>
          cases before with
          | nil =>
              obtain ⟨rfl, rfl⟩ := List.cons.inj h
              exact ⟨[], ps, rfl, rfl, rfl⟩
          | cons b before => exact hlater (List.cons.inj h).2

theorem exists_append_of_mem_locate {ps : List Piece} {p : Position} {t : Token} (h : t ∈ locate p ps) :
    ∃ before after, ps = before ++ token t.kind t.lexeme :: after ∧ t.position = p.advanceOver (join before) := by
  obtain ⟨us, vs, hsplit⟩ := List.append_of_mem h
  obtain ⟨qs, rs, hps, hp, -⟩ := exists_of_locate_eq_append hsplit
  exact ⟨qs, rs, hps, hp⟩

def NamesLead : List Piece → Prop
  | [] => True
  | p :: ps => (p.kind = some .name → ps.head? = some (token .colon [':'])) ∧ NamesLead ps

theorem NamesLead.append {ps qs : List Piece} (hp : NamesLead ps) (hq : NamesLead qs) : NamesLead (ps ++ qs) := by
  induction ps with
  | nil => exact hq
  | cons p ps ih =>
      refine ⟨fun hk => ?_, ih hp.2⟩
      have hhead := hp.1 hk
      show (ps ++ qs).head? = _
      rw [List.head?_append, hhead]
      rfl

theorem NamesLead.of_append {ps qs : List Piece} (h : NamesLead (ps ++ qs)) : NamesLead qs := by
  induction ps with
  | nil => exact h
  | cons p ps ih => exact ih h.2

theorem namesLead_singleton {p : Piece} (h : p.kind ≠ some .name) : NamesLead [p] :=
  ⟨fun hk => absurd hk h, trivial⟩

theorem namesLead_string (cs : Text) : NamesLead [(string cs).1] := by
  rw [string]
  split
  · exact namesLead_singleton (by simp [token])
  · exact namesLead_singleton (by simp [token])

theorem namesLead_content (cs : Text) : NamesLead (content cs).1 := by
  unfold content
  split
  · next rest => exact namesLead_string rest
  · split
    · trivial
    · exact namesLead_singleton (by simp [token])

theorem namesLead_sign {k : Token.Kind} (h : k.IsSign) (t : Text) : NamesLead [token k t] := by
  apply namesLead_singleton
  rintro ⟨⟩
  exact h

theorem namesLead_word (c : Char) (cs : Text) : NamesLead (word c cs).1 := by
  rw [word]
  split
  · next rest _ => exact ⟨fun _ => rfl, by simp [token], namesLead_content rest⟩
  · rcases wordKind_cases (c :: cs.takeWhile isWordChar) with hsign | hcontent
    · exact namesLead_sign hsign _
    · rw [hcontent]
      exact namesLead_singleton (by simp [token])

theorem namesLead_step (c : Char) (cs : Text) : NamesLead (step c cs).1 := by
  apply step_elim (P := fun cut => NamesLead cut.1)
  case hsign =>
    intro k t _ hk _ _
    exact namesLead_sign hk t
  case hblank =>
    intro _
    exact namesLead_singleton (by simp)
  case hstring => exact namesLead_string cs
  case hword =>
    intro _ _
    exact namesLead_word c cs

theorem namesLead_pieces (t : Text) : NamesLead (pieces t) := by
  fun_induction pieces t with
  | case1 => trivial
  | case2 c cs ih => exact (namesLead_step c cs).append ih

theorem colon_of_locate {ps : List Piece} (h : NamesLead ps) {p : Position} {before after : List Token} {name : Token}
    (hl : locate p ps = before ++ name :: after) (hk : name.kind = .name) :
    ∃ colon rest, after = colon :: rest ∧ colon.kind = .colon ∧ colon.lexeme = [':'] ∧
      colon.span.start = name.span.stop := by
  obtain ⟨qs, rs, rfl, -, rfl⟩ := exists_of_locate_eq_append hl
  obtain ⟨rest, rfl⟩ := List.head?_eq_some_iff.1 (h.of_append.1 (congrArg some hk))
  exact ⟨_, _, rfl, rfl, rfl, Position.offset_advanceOver _ _⟩

end Lexer

namespace Token

theorem fits_of_mem_scan {source : Text} {t : Token} (h : t ∈ scan source) : t.kind.Fits t.lexeme := by
  obtain ⟨before, after, hpieces, -⟩ := Lexer.exists_append_of_mem_locate h
  have hmem : Lexer.token t.kind t.lexeme ∈ Lexer.pieces source := by
    rw [hpieces]
    exact List.mem_append_right before List.mem_cons_self
  exact Lexer.fits_pieces source _ hmem _ rfl

theorem not_mem_text {t : Token} (hf : t.kind.Fits t.lexeme) (hc : t.kind.isContent) : '"' ∉ t.text := by
  rw [Token.text, Token.literal?]
  cases hk : t.kind with
  | content quoted =>
      rw [hk] at hf
      cases quoted with
      | none =>
          intro h
          exact absurd (hf.2 '"' h) (by decide)
      | some inner => exact hf.1
  | _ => simp [hk, Kind.isContent] at hc

end Token

end Triage
