import Triage.Proofs.Filter.Grammar
import Triage.Proofs.Filter.Run

namespace Triage

def Reading.term (r : Reading) : Text × Text := (r.name, r.content)

namespace Filter

open Grammar

namespace Draft

def AwaitsTerm (d : Draft) : Prop := d.need = .term ∨ d.need = .nothing

theorem step?_of_beginTerm? {d e : Draft} {t : Token} (hd : d.AwaitsTerm) (h : d.beginTerm? t = some e) :
    d.step? t = some e := by
  rcases hd with hd | hd <;> simp [step?, hd, h]

theorem step?_of_followTerm? {d e : Draft} {t : Token} (hd : d.need = .nothing) (hb : d.beginTerm? t = none)
    (h : d.followTerm? t = some e) : d.step? t = some e := by
  simp [step?, hd, hb, h]

def settle (d : Draft) (l : Level) (rs : List Reading) : Draft :=
  { d with level := l, readings := d.readings ++ rs, need := .nothing }

theorem settle_trans {d e : Draft} {rs : List Reading} (ho : e.outer = d.outer) (hr : e.readings = d.readings ++ rs)
    (l : Level) (rs' : List Reading) : e.settle l rs' = d.settle l (rs ++ rs') := by
  simp [settle, ho, hr]

structure Arrives (d : Draft) (ts : List Token) (n : Nat) (e : Draft) : Prop where
  run : d.run? ts = some e
  peak : d.peak ts = d.depth + n

theorem Arrives.step {d e : Draft} {t : Token} (h : d.step? t = some e) : d.Arrives [t] 0 e :=
  ⟨run?_cons h [], by simp [Draft.peak, h]⟩

theorem Arrives.append {d e e' : Draft} {ts us : List Token} {m n : Nat} (h : d.Arrives ts m e)
    (hd : e.depth = d.depth) (h' : e.Arrives us n e') : d.Arrives (ts ++ us) (max m n) e' := by
  refine ⟨by rw [run?_append, h.run]; exact h'.run, ?_⟩
  rw [peak_append h.run, h.peak, h'.peak, hd]
  omega

theorem Arrives.cons {d e e' : Draft} {t : Token} {ts : List Token} {n : Nat} (h : d.step? t = some e)
    (hd : e.depth = d.depth) (h' : e.Arrives ts n e') : d.Arrives (t :: ts) n e' := by
  simpa using (Arrives.step h).append hd h'

theorem Arrives.deepen {d e e' : Draft} {t : Token} {ts : List Token} {n : Nat} (h : d.step? t = some e)
    (hd : e.depth = d.depth + 1) (h' : e.Arrives ts n e') : d.Arrives (t :: ts) (n + 1) e' := by
  refine ⟨(run?_cons h ts).trans h'.run, ?_⟩
  rw [peak_cons h, h'.peak, hd]
  omega

def Awaits (d : Draft) : Category → Prop
  | .disjunction => d.need = .term ∧ d.level = {}
  | .conjunction => d.need = .term ∧ d.level.conjuncts = none ∧ d.level.negations = 0
  | .unary | .primary => d.AwaitsTerm

def Leads (f : Filter) (before after : Level) : Category → Prop
  | .disjunction => after.result? = some f ∧ after.negations = 0
  | .conjunction => after = { before with conjuncts := some f }
  | .unary | .primary => after = before.place f

def Reaches (c : Category) (ts : List Token) (f : Filter) (n : Nat) (d : Draft) : Prop :=
  ∃ l rs, d.Arrives ts n (d.settle l rs) ∧ Leads f d.level l c ∧ rs.map Reading.term = f.terms

section

variable {ts us : List Token} {f g : Filter} {t : Token} {m n : Nat} {d : Draft}

theorem reaches_disj (hd : d.Awaits .disjunction) (hleft : Reaches .disjunction ts f m d) (ht : t.kind = .disjunction)
    (hright : ∀ e : Draft, e.Awaits .conjunction → Reaches .conjunction us g n e) :
    Reaches .disjunction (ts ++ t :: us) (.disj f g) (max m n) d := by
  obtain ⟨hn, hl⟩ := hd
  obtain ⟨l, rs, hrun, ⟨hf, hz⟩, hrs⟩ := hleft
  have ha : l.alternative = { alternatives := some f } := by simp [Level.alternative, hf]
  let e : Draft := { d.settle l rs with level := { alternatives := some f }, need := .term }
  have hstep : (d.settle l rs).step? t = some e :=
    step?_of_followTerm? rfl (by simp [beginTerm?, ht]) (by simp [followTerm?, ht, settle, e, ha])
  obtain ⟨_, rs', hrun', rfl, hrs'⟩ := hright e ⟨rfl, rfl, rfl⟩
  rw [settle_trans (show e.outer = d.outer from rfl) rfl] at hrun'
  refine ⟨_, rs ++ rs', hrun.append ?_ (.cons hstep ?_ hrun'), ?_, by simp [hrs, hrs', terms]⟩
  · simp [depth, settle, hz, hl]
  · simp [depth, settle, hz, e]
  · simp [Leads, Level.result?, e]

theorem reaches_conj {e : Draft} {l : Level} {rs : List Reading} {vs : List Token} (hz : d.level.negations = 0)
    (hl : Leads f d.level l .conjunction) (hrs : rs.map Reading.term = f.terms) (hlevel : e.level = l)
    (houter : e.outer = d.outer) (hreadings : e.readings = d.readings ++ rs) (hright : Reaches .unary us g n e)
    (hjoin : ∀ e', e.Arrives us n e' → d.Arrives vs m e') : Reaches .conjunction vs (.conj f g) m d := by
  obtain ⟨_, rs', hrun, rfl, hrs'⟩ := hright
  rw [settle_trans houter hreadings] at hrun
  refine ⟨_, rs ++ rs', hjoin _ hrun, ?_, by simp [hrs, hrs', terms]⟩
  show e.level.place g = _
  rw [hlevel, Level.place_of_conjuncts (by rw [hl]) (by rw [hl, hz]), hl]

theorem reaches_and (hd : d.Awaits .conjunction) (hleft : Reaches .conjunction ts f m d) (ht : t.kind = .conjunction)
    (hright : ∀ e : Draft, e.Awaits .unary → Reaches .unary us g n e) :
    Reaches .conjunction (ts ++ t :: us) (.conj f g) (max m n) d := by
  obtain ⟨l, rs, hrun, rfl, hrs⟩ := hleft
  let e : Draft := { d.settle { d.level with conjuncts := some f } rs with need := .term }
  have hstep : (d.settle { d.level with conjuncts := some f } rs).step? t = some e :=
    step?_of_followTerm? rfl (by simp [beginTerm?, ht]) (by simp [followTerm?, ht, e])
  exact reaches_conj hd.2.2 rfl hrs (e := e) rfl rfl rfl (hright e (.inl rfl)) fun _ hrun' =>
    hrun.append rfl (.cons hstep rfl hrun')

theorem reaches_adjacent (hd : d.Awaits .conjunction) (hleft : Reaches .conjunction ts f m d)
    (hright : ∀ e : Draft, e.Awaits .unary → Reaches .unary us g n e) :
    Reaches .conjunction (ts ++ us) (.conj f g) (max m n) d := by
  obtain ⟨l, rs, hrun, rfl, hrs⟩ := hleft
  let e : Draft := d.settle { d.level with conjuncts := some f } rs
  exact reaches_conj hd.2.2 rfl hrs (e := e) rfl rfl rfl (hright e (.inr rfl)) fun _ hrun' => hrun.append rfl hrun'

theorem reaches_neg (hd : d.AwaitsTerm) (ht : t.kind = .negation)
    (hinner : ∀ e : Draft, e.Awaits .unary → Reaches .unary ts f n e) :
    Reaches .unary (t :: ts) (.neg f) (n + 1) d := by
  let e : Draft := { d with level := { d.level with negations := d.level.negations + 1 }, need := .term }
  have hstep : d.step? t = some e := step?_of_beginTerm? hd (by simp [beginTerm?, ht, e])
  obtain ⟨_, rs, hrun, rfl, hrs⟩ := hinner e (.inl rfl)
  refine ⟨_, rs, .deepen hstep ?_ hrun, Level.place_neg d.level f, hrs⟩
  simp [depth, e]
  omega

theorem reaches_group {o c : Token} (hd : d.AwaitsTerm) (ho : o.kind = .leftParen) (hc : c.kind = .rightParen)
    (hinner : ∀ e : Draft, e.Awaits .disjunction → Reaches .disjunction ts f n e) :
    Reaches .primary (o :: (ts ++ [c])) f (n + 1) d := by
  let e : Draft := { d with outer := d.level :: d.outer, level := {}, need := .term }
  have hstep : d.step? o = some e := step?_of_beginTerm? hd (by simp [beginTerm?, ho, e])
  obtain ⟨l, rs, hrun, ⟨hf, hz⟩, hrs⟩ := hinner e ⟨rfl, rfl⟩
  have hclose : (e.settle l rs).step? c = some (d.settle (d.level.place f) rs) :=
    step?_of_followTerm? rfl (by simp [beginTerm?, hc]) (by simp [followTerm?, hc, close?, settle, e, hf])
  refine ⟨_, rs, .deepen hstep ?_ ?_, rfl, hrs⟩
  · simp [depth, e]
    omega
  · simpa using hrun.append (by simp [depth, settle, hz, e]) (.step hclose)

theorem reaches_qualifier {name colon content : Token} (hd : d.AwaitsTerm) (hn : name.kind = .name)
    (hc : colon.kind = .colon) (hk : content.kind.isContent) (hs : content.span.start = colon.span.stop) :
    Reaches .primary [name, colon, content] (.term name.lexeme (content.literal?.getD content.lexeme)) 0 d := by
  have hname : d.step? name = some { d with need := .colon name } :=
    step?_of_beginTerm? hd (by simp [beginTerm?, hn])
  have hcolon : { d with need := .colon name : Draft }.step? colon = some { d with need := .content name colon } := by
    simp [step?, hc]
  have hcontent : { d with need := .content name colon : Draft }.step? content =
      some (d.addTerm name.lexeme content.text name content) := by
    simp [step?, hk, hs, addTerm]
  exact ⟨_, _, .cons hname rfl (.cons hcolon rfl (.step hcontent)), rfl, rfl⟩

theorem reaches_keyword {content : Token} (hd : d.AwaitsTerm) (hk : content.kind.isContent) :
    Reaches .primary [content] (.term keywordName (content.literal?.getD content.lexeme)) 0 d := by
  have hcontent : d.step? content = some (d.addTerm keywordName content.text content content) := by
    refine step?_of_beginTerm? hd ?_
    cases hc : content.kind <;> simp_all [beginTerm?, Token.Kind.isContent]
  exact ⟨_, _, .step hcontent, rfl, rfl⟩

end

theorem reaches_of_derives {c : Category} {ts : List Token} {f : Filter} {n : Nat} (h : Derives c ts f n) :
    ∀ d : Draft, d.Awaits c → Reaches c ts f n d := by
  -- For any draft that awaits the part: behind an operator it is another one than where the derivation begins.
  induction h with
  | conjunction _ ih =>
      rintro d ⟨hn, hl⟩
      obtain ⟨l, rs, hrun, rfl, ht⟩ := ih d ⟨hn, by simp [hl]⟩
      exact ⟨_, rs, hrun, by simp [Leads, Level.result?, hl], ht⟩
  | or _ ht _ ihl ihr => exact fun d hd => reaches_disj hd (ihl d hd) ht ihr
  | unary _ ih =>
      rintro d ⟨hn, hc, hz⟩
      obtain ⟨l, rs, hrun, rfl, hrs⟩ := ih d (.inl hn)
      exact ⟨_, rs, hrun, by simp [Leads, Level.place, hc, hz, Level.negate], hrs⟩
  | and _ ht _ ihl ihr => exact fun d hd => reaches_and hd (ihl d hd) ht ihr
  | adjacent _ _ ihl ihr => exact fun d hd => reaches_adjacent hd (ihl d hd) ihr
  | primary _ ih => exact ih
  | not ht _ ih => exact fun _ hd => reaches_neg hd ht ih
  | group ho _ hc ih => exact fun _ hd => reaches_group hd ho hc ih
  | qualifier hn hc hk hs => exact fun _ hd => reaches_qualifier hd hn hc hk hs
  | keyword hk => exact fun _ hd => reaches_keyword hd hk

end Draft

end Filter

end Triage
