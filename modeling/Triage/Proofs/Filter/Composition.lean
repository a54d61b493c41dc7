import Mathlib.Data.List.Forall2
import Triage.Proofs.Filter.Recompilation
import Triage.Proofs.Token.Joining

/-!
Filters are put together as texts: in parentheses, each text is one term of the whole, whatever it looks like inside. Its
tokens stand elsewhere in the whole, but a derivation looks only at what adjoins what.
-/

namespace Triage

namespace Token

structure Moved (start start' : Nat) (t t' : Token) : Prop where
  kind : t.kind = t'.kind
  lexeme : t.lexeme = t'.lexeme
  offset : t.position.offset + start' = t'.position.offset + start

variable {start start' : Nat} {t t' u u' : Token}

theorem Moved.text (h : Moved start start' t t') : t.literal?.getD t.lexeme = t'.literal?.getD t'.lexeme := by
  rw [literal?, literal?, h.kind, h.lexeme]

theorem Moved.adjoins (ht : Moved start start' t t') (hu : Moved start start' u u')
    (h : u'.span.start = t'.span.stop) : u.span.start = t.span.stop := by
  have htoffset := ht.offset
  have huoffset := hu.offset
  simp only [span, ht.lexeme] at h ⊢
  omega

end Token

namespace Lexer

open Token

theorem forall₂_locate (p p' : Position) (ps : List Piece) :
    List.Forall₂ (Moved p.offset p'.offset) (locate p ps) (locate p' ps) := by
  rw [locate_eq_map p, locate_eq_map p', List.forall₂_map_left_iff, List.forall₂_map_right_iff, List.forall₂_same]
  intro t _
  refine ⟨rfl, rfl, ?_⟩
  simp only [Token.movedTo, Position.movedTo]
  omega

end Lexer

namespace Filter

open Grammar Lexer Text Token

theorem exists_of_forall₂_append {α β : Type} {r : α → β → Prop} {us : List α} {ts ts' : List β}
    (h : List.Forall₂ r us (ts ++ ts')) :
    ∃ vs ws, us = vs ++ ws ∧ List.Forall₂ r vs ts ∧ List.Forall₂ r ws ts' :=
  ⟨us.take ts.length, us.drop ts.length, (List.take_append_drop _ _).symm, List.forall₂_take_append _ _ _ h,
    List.forall₂_drop_append _ _ _ h⟩

theorem Grammar.Derives.moved {start start' : Nat} {c : Category} {us ts : List Token} {f : Filter} {n : Nat}
    (h : Derives c ts f n) (hmoved : List.Forall₂ (Moved start start') us ts) : Derives c us f n := by
  induction h generalizing us with
  | conjunction _ ih => exact .conjunction (ih hmoved)
  | or _ ht _ ihl ihr =>
      obtain ⟨vs, ws, rfl, hvs, hws⟩ := exists_of_forall₂_append hmoved
      cases hws with
      | cons hmove hws => exact .or (ihl hvs) (hmove.kind.trans ht) (ihr hws)
  | unary _ ih => exact .unary (ih hmoved)
  | and _ ht _ ihl ihr =>
      obtain ⟨vs, ws, rfl, hvs, hws⟩ := exists_of_forall₂_append hmoved
      cases hws with
      | cons hmove hws => exact .and (ihl hvs) (hmove.kind.trans ht) (ihr hws)
  | adjacent _ _ ihl ihr =>
      obtain ⟨vs, ws, rfl, hvs, hws⟩ := exists_of_forall₂_append hmoved
      exact .adjacent (ihl hvs) (ihr hws)
  | primary _ ih => exact .primary (ih hmoved)
  | not ht _ ih =>
      cases hmoved with
      | cons hmove hmoved => exact .not (hmove.kind.trans ht) (ih hmoved)
  | group ho _ hc ih =>
      cases hmoved with
      | cons hopen hmoved =>
          obtain ⟨vs, ws, rfl, hvs, hws⟩ := exists_of_forall₂_append hmoved
          rcases hws with _ | ⟨hclose, ⟨⟩⟩
          exact .group (hopen.kind.trans ho) (ih hvs) (hclose.kind.trans hc)
  | qualifier hn hc hk hs =>
      rcases hmoved with _ | ⟨hname, _ | ⟨hcolon, _ | ⟨hcontent, ⟨⟩⟩⟩⟩
      rw [← hname.lexeme, ← hcontent.text]
      exact .qualifier (hname.kind.trans hn) (hcolon.kind.trans hc) (hcontent.kind ▸ hk) (hcolon.adjoins hcontent hs)
  | keyword hk =>
      rcases hmoved with _ | ⟨hcontent, ⟨⟩⟩
      rw [← hcontent.text]
      exact .keyword (hcontent.kind ▸ hk)

theorem ne_fault_of_isContent {k : Kind} (h : k.isContent) (cause : LexicalFault) : k ≠ .fault cause := by
  rintro rfl
  cases h

theorem Grammar.Derives.not_fault {c : Category} {ts : List Token} {f : Filter} {n : Nat} (h : Derives c ts f n)
    (cause : LexicalFault) : ∀ t ∈ ts, t.kind ≠ .fault cause := by
  induction h with
  | conjunction _ ih | unary _ ih | primary _ ih => exact ih
  | or _ ht _ ihl ihr | and _ ht _ ihl ihr =>
      exact List.forall_mem_append.2 ⟨ihl, List.forall_mem_cons.2 ⟨by simp [ht], ihr⟩⟩
  | adjacent _ _ ihl ihr => exact List.forall_mem_append.2 ⟨ihl, ihr⟩
  | not ht _ ih => exact List.forall_mem_cons.2 ⟨by simp [ht], ih⟩
  | group ho _ hc ih =>
      exact List.forall_mem_cons.2 ⟨by simp [ho], List.forall_mem_append.2 ⟨ih, by simp [hc]⟩⟩
  | qualifier hn hc hk _ => simp [hn, hc, ne_fault_of_isContent hk cause]
  | keyword hk => simp [ne_fault_of_isContent hk cause]

theorem terminated_of_derives {c : Category} {ps : List Piece} {p : Position} {f : Filter} {n : Nat}
    (h : Derives c (locate p ps) f n) : Terminated ps := by
  intro q hq hk
  obtain ⟨t, ht, htk⟩ := exists_mem_locate hq hk p
  exact h.not_fault .unterminatedString t ht htk

theorem cuts_parenthesised {t : Text} (h : Terminated (Lexer.pieces t)) :
    Cuts (parenthesiseIf true t) (enclose true (Lexer.pieces t)) := by
  intro rest _
  have hclose : StandsApart (')' :: rest) := by
    rintro c ⟨⟩
    decide
  simp [parenthesiseIf, enclose, pieces_leftParen, pieces_append hclose h, pieces_rightParen]

def Limited (source : Text) : Prop :=
  (Token.scan source).length ≤ 1024 ∧ ∀ f n, Derives .disjunction (Token.scan source) f n → n ≤ 64

theorem limited_of_parsed {source : Text} (h : (compile source).Parsed) : Limited source := by
  rcases accepts_of_parsed h with ⟨hnil, -⟩ | ⟨hlength, n, hd, hn⟩
  · rw [Limited, hnil]
    exact ⟨Nat.zero_le _, fun f n hd => absurd rfl hd.ne_nil⟩
  · refine ⟨hlength, fun g m hg => ?_⟩
    obtain ⟨-, rfl⟩ := derives_unique hd hg
    exact hn

def Yields (source : Text) (f : Filter) (messages : List String) : Prop :=
  (compile source).filter = f ∧ (compile source).Parsed ∧ (compile source).semanticMessages = messages

theorem yields_iff_limited {source : Text} {f : Filter} {n : Nat} (h : Derives .disjunction (Token.scan source) f n) :
    Yields source f (f.terms.filterMap complaint?) ↔ Limited source := by
  refine ⟨fun hyields => limited_of_parsed hyields.2.1, fun hlimited => ?_⟩
  have haccepts : Accepts (Token.scan source) f := .inr ⟨hlimited.1, n, h, hlimited.2 f n h⟩
  obtain ⟨hfilter, hparsed⟩ := parsed_of_accepts haccepts
  exact ⟨hfilter, hparsed, semanticMessages_of_accepts haccepts⟩

structure Enclosable (source : Text) (f : Filter) : Prop where
  cuts : Cuts (parenthesiseIf true source) (enclose true (Lexer.pieces source))
  derives : ∃ n, ∀ p, Derives .unary (locate p (enclose true (Lexer.pieces source))) f n

theorem enclosable_compile {source : Text} (h : (compile source).Parsed) (hne : (compile source).filter ≠ .everything) :
    Enclosable source (compile source).filter := by
  rcases accepts_of_parsed h with ⟨-, heverything⟩ | ⟨-, n, hd, -⟩
  · exact absurd heverything hne
  · have hanywhere : ∀ p, Derives .disjunction (locate p (Lexer.pieces source)) (compile source).filter n :=
      fun p => hd.moved (forall₂_locate p .origin _)
    exact ⟨cuts_parenthesised (terminated_of_derives hd), n + 1, derives_group hanywhere⟩

theorem scan_of_cuts {t : Text} {ps : List Piece} (h : Cuts t ps) : Token.scan t = locate .origin ps := by
  have hpieces := h [] (by simp [Stops])
  rw [Token.scan, ← List.append_nil t, hpieces]
  simp [Lexer.pieces]

section

variable {s₁ s₂ : Text} {f₁ f₂ : Filter}

theorem Enclosable.conj (h₁ : Enclosable s₁ f₁) (h₂ : Enclosable s₂ f₂) :
    ∃ n, Derives .disjunction (Token.scan ("(".toList ++ s₁ ++ ") (".toList ++ s₂ ++ ")".toList)) (.conj f₁ f₂) n := by
  have htext : "(".toList ++ s₁ ++ ") (".toList ++ s₂ ++ ")".toList =
      parenthesiseIf true s₁ ++ ' ' :: parenthesiseIf true s₂ := by simp [parenthesiseIf]
  obtain ⟨m, hm⟩ := h₁.derives
  obtain ⟨n, hn⟩ := h₂.derives
  rw [htext, scan_of_cuts (h₁.cuts.blank h₂.cuts), locate_append]
  exact ⟨_, .conjunction (.adjacent (.unary (hm _)) (hn _))⟩

theorem Enclosable.disj (h₁ : Enclosable s₁ f₁) (h₂ : Enclosable s₂ f₂) :
    ∃ n, Derives .disjunction (Token.scan ("(".toList ++ s₁ ++ ") || (".toList ++ s₂ ++ ")".toList)) (.disj f₁ f₂)
      n := by
  have htext : "(".toList ++ s₁ ++ ") || (".toList ++ s₂ ++ ")".toList =
      parenthesiseIf true s₁ ++ ' ' :: (['|', '|'] ++ ' ' :: parenthesiseIf true s₂) := by simp [parenthesiseIf]
  obtain ⟨m, hm⟩ := h₁.derives
  obtain ⟨n, hn⟩ := h₂.derives
  rw [htext, scan_of_cuts (h₁.cuts.blank (cuts_disjunction.blank h₂.cuts)), locate_append]
  exact ⟨_, .or (.conjunction (.unary (hm _))) rfl (.unary (hn _))⟩

theorem Enclosable.neg (h : Enclosable s₁ f₁) :
    ∃ n, Derives .disjunction (Token.scan ("~(".toList ++ s₁ ++ ")".toList)) (.neg f₁) n := by
  have htext : "~(".toList ++ s₁ ++ ")".toList = '~' :: parenthesiseIf true s₁ := by simp [parenthesiseIf]
  have hcuts : Cuts ('~' :: parenthesiseIf true s₁) (token .negation ['~'] :: enclose true (Lexer.pieces s₁)) := by
    intro rest hrest
    rw [List.cons_append, pieces_negation, h.cuts rest hrest, List.cons_append]
  obtain ⟨n, hn⟩ := h.derives
  rw [htext, scan_of_cuts hcuts]
  exact ⟨_, .conjunction (.unary (.not rfl (hn _)))⟩

end

theorem compile_composed {s₁ s₂ : Text} (h₁ : (compile s₁).Parsed) (h₂ : (compile s₂).Parsed)
    (hne₁ : (compile s₁).filter ≠ .everything) (hne₂ : (compile s₂).filter ≠ .everything) :
    let first := compile s₁
    let second := compile s₂
    let conjunction := "(".toList ++ s₁ ++ ") (".toList ++ s₂ ++ ")".toList
    let disjunction := "(".toList ++ s₁ ++ ") || (".toList ++ s₂ ++ ")".toList
    let negation := "~(".toList ++ s₁ ++ ")".toList
    (Yields conjunction (.conj first.filter second.filter) (first.semanticMessages ++ second.semanticMessages) ↔
      Limited conjunction) ∧
    (Yields disjunction (.disj first.filter second.filter) (first.semanticMessages ++ second.semanticMessages) ↔
      Limited disjunction) ∧
    (Yields negation (.neg first.filter) first.semanticMessages ↔ Limited negation) := by
  have hfirst := enclosable_compile h₁ hne₁
  have hsecond := enclosable_compile h₂ hne₂
  have hmessages₁ := semanticMessages_of_accepts (accepts_of_parsed h₁)
  have hmessages₂ := semanticMessages_of_accepts (accepts_of_parsed h₂)
  obtain ⟨_, hconj⟩ := hfirst.conj hsecond
  obtain ⟨_, hdisj⟩ := hfirst.disj hsecond
  obtain ⟨_, hneg⟩ := hfirst.neg
  dsimp only
  rw [hmessages₁, hmessages₂, ← List.filterMap_append]
  exact ⟨yields_iff_limited hconj, yields_iff_limited hdisj, yields_iff_limited hneg⟩

def alternatives : Text := "ui or label:\") (\"".toList

def complaining : Text := "-id:buggy count:5 -x".toList

theorem compile_composed_alternatives :
    (compile alternatives).Parsed ∧ (compile complaining).Parsed ∧ (compile alternatives).filter ≠ .everything ∧
    (compile complaining).filter ≠ .everything ∧
    Limited ("(".toList ++ alternatives ++ ") (".toList ++ complaining ++ ")".toList) ∧
    Yields ("(".toList ++ alternatives ++ ") (".toList ++ complaining ++ ")".toList)
      (.conj (compile alternatives).filter (compile complaining).filter)
      ((compile alternatives).semanticMessages ++ (compile complaining).semanticMessages) := by
  have h₁ : (compile alternatives).Parsed := by
    rw [Compilation.Parsed]
    decide +kernel
  have h₂ : (compile complaining).Parsed := by
    rw [Compilation.Parsed]
    decide +kernel
  have hne₁ : (compile alternatives).filter ≠ .everything := by decide +kernel
  have hne₂ : (compile complaining).filter ≠ .everything := by decide +kernel
  have hwhole : (compile ("(".toList ++ alternatives ++ ") (".toList ++ complaining ++ ")".toList)).Parsed := by
    rw [Compilation.Parsed]
    decide +kernel
  have hlimited := limited_of_parsed hwhole
  exact ⟨h₁, h₂, hne₁, hne₂, hlimited, (compile_composed h₁ h₂ hne₁ hne₂).1.2 hlimited⟩

end Filter

end Triage
