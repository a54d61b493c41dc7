import Triage.Proofs.Filter.Descent.Reading
import Triage.Proofs.Token.Coverage

namespace Triage.Filter

open Grammar Descent

namespace Descent

variable {ts : List Token} {finish : Token}

/-- What a production returns for a part of a filter is what the draft leads to that awaits that part. -/
inductive Accords (ts : List Token) (finish : Token) (category : Category) (d : Draft) (c : Cursor) : Returned → Prop
  | filter {f after l} : Draft.Leads f d.level l category → after.Stops (ts ++ [finish]) category →
      after.depth = c.depth → d.readFrom ts finish c = (d.resume l after.readings).readFrom ts finish after →
      Accords ts finish category d c (.ok f, after)
  | fault {m after} : d.readFrom ts finish c = ⟨after.readings, .error m⟩ →
      Accords ts finish category d c (.error m, after)

theorem Accords.of_read {category : Category} {d e : Draft} {c start : Cursor} {r : Returned}
    (h : Accords ts finish category e start r) (hread : d.readFrom ts finish c = e.readFrom ts finish start)
    (hdepth : start.depth = c.depth) (houter : e.outer = d.outer)
    (hleads : ∀ f l, Draft.Leads f e.level l category → Draft.Leads f d.level l category) :
    Accords ts finish category d c r := by
  cases h with
  | @filter f after l hl hs hd hr =>
      have hresume : e.resume l after.readings = d.resume l after.readings := by rw [Draft.resume, Draft.resume, houter]
      exact .filter (hleads f l hl) hs (hd.trans hdepth) (hread.trans (hresume ▸ hr))
  | fault hr => exact .fault (hread.trans hr)

theorem Accords.of_resume {category : Category} {d : Draft} {c : Cursor} {f : Filter} (hd : d.Keeps c)
    (hneed : d.need = .nothing) (hleads : Draft.Leads f d.level d.level category)
    (hstops : c.Stops (ts ++ [finish]) category) : Accords ts finish category d c (.ok f, c) := by
  have hresume : d.resume d.level c.readings = d := by rw [Draft.resume, ← hd.readings, ← hneed]
  exact .filter hleads hstops rfl (by rw [hresume])

theorem Accords.unary {d : Draft} {c : Cursor} {r : Returned} (h : Accords ts finish .primary d c r) :
    Accords ts finish .unary d c r := by
  cases h with
  | filter hleads hstops hdepth hread => exact .filter hleads hstops hdepth hread
  | fault hread => exact .fault hread

section

variable {category category' : Category} {d e : Draft} {c : Cursor} {m : Misreading} {f : Filter} {after : Cursor}

theorem Accords.abandoned (h : Accords ts finish category' e (c.advance (ts ++ [finish])).inward (.error m, after))
    (henters : d.Enters ts finish c e) : Accords ts finish category d c (.error m, after.outward) := by
  cases h with
  | fault hread => exact .fault (henters.read.trans hread)

theorem Accords.negated {result : Except Misreading Filter}
    (h : Accords ts finish .unary d.negated (c.advance (ts ++ [finish])).inward (result, after))
    (henters : d.Enters ts finish c d.negated) :
    Accords ts finish .unary d c (result.map .neg, after.outward) := by
  cases h with
  | fault hread => exact .fault (henters.read.trans hread)
  | @filter f _ l hleads _ hdepth hread =>
      have hlevel : l = d.level.place (.neg f) := Eq.trans hleads (Level.place_neg d.level f)
      exact .filter hlevel trivial (Cursor.depth_outward hdepth) (henters.read.trans hread)

theorem Accords.closed (hfinish : finish.kind = .finish)
    (h : Accords ts finish .disjunction d.opened (c.advance (ts ++ [finish])).inward (.ok f, after))
    (henters : d.Enters ts finish c d.opened) (hkeeps : d.opened.Keeps (c.advance (ts ++ [finish])).inward)
    (hclose : (after.outward.next ts finish).kind = .rightParen) :
    Accords ts finish .primary d c (.ok f, after.outward.advance (ts ++ [finish])) := by
  cases h with
  | @filter _ _ l hleads _ hdepth hread =>
      obtain ⟨hf, hz⟩ := hleads
      have hdepth' : (after.outward.advance (ts ++ [finish])).depth = c.depth :=
        (Cursor.depth_advance _ _).trans (Cursor.depth_outward hdepth)
      have hclosed := Draft.read_close hfinish (hkeeps.resume rfl hz hdepth).within hf hclose
      refine .filter rfl trivial hdepth' ?_
      rw [Cursor.readings_advance]
      exact henters.read.trans (hread.trans hclosed)

theorem Accords.unclosed (hfinish : finish.kind = .finish)
    (h : Accords ts finish .disjunction d.opened (c.advance (ts ++ [finish])).inward (.ok f, after))
    (henters : d.Enters ts finish c d.opened) (hkeeps : d.opened.Keeps (c.advance (ts ++ [finish])).inward)
    (hclose : (after.outward.next ts finish).kind ≠ .rightParen) :
    Accords ts finish .primary d c
      (.error (after.outward.complaint (ts ++ [finish]) .expectedClose), after.outward) := by
  cases h with
  | filter hleads hstops hdepth hread =>
      have hwithin := (hkeeps.resume rfl hleads.2 hdepth).within
      have hrefused := Draft.read_behind hfinish hwithin rfl hstops (fun _ => rfl) (absurd · hclose)
      rw [Cursor.complaint_eq]
      exact .fault (henters.read.trans (hread.trans hrefused))

end

theorem accords_of_first {category part : Category} {d : Draft} {c : Cursor} {r : Returned} {first : Option Returned}
    {rest : Filter → Cursor → Option Returned} (hd : d.Keeps c) (hz : d.level.negations = 0)
    (hfirst : ∀ r, first = some r → Accords ts finish part d c r)
    (hpart : ∀ f l, Draft.Leads f d.level l part → l.negations = 0 ∧
      ∀ g l', Draft.Leads g l l' category → Draft.Leads g d.level l' category)
    (hrest : ∀ f after l r, rest f after = some r → Draft.Leads f d.level l part →
      after.Stops (ts ++ [finish]) part → (d.resume l after.readings).Keeps after →
      Accords ts finish category (d.resume l after.readings) after r)
    (h : (do
      let (result, after) ← first
      match result with
      | .ok f => rest f after
      | .error m => some (.error m, after)) = some r) :
    Accords ts finish category d c r := by
  obtain ⟨returned, hreturned, h⟩ := Option.bind_eq_some_iff.1 h
  cases hfirst returned hreturned with
  | @filter f after l hleads hstops hdepth hread =>
      obtain ⟨hl, hcompose⟩ := hpart f l hleads
      exact (hrest f after l r h hleads hstops (hd.resume hz hl hdepth)).of_read hread hdepth rfl hcompose
  | fault hread =>
      cases h
      exact .fault hread

structure Accordant (ts : List Token) (finish : Token) (inner : Readers) : Prop where
  disjunction : ∀ c r, inner.disjunction c = some r → ∀ d : Draft, d.Keeps c → d.Awaits .disjunction →
    Accords ts finish .disjunction d c r
  alternatives : ∀ left c r, inner.alternatives left c = some r → ∀ d : Draft, d.Keeps c → d.need = .nothing →
    d.level.result? = some left → d.level.negations = 0 → c.conjunct? (ts ++ [finish]) = none →
    Accords ts finish .disjunction d c r
  conjunction : ∀ c r, inner.conjunction c = some r → ∀ d : Draft, d.Keeps c → d.Awaits .conjunction →
    Accords ts finish .conjunction d c r
  conjuncts : ∀ left c r, inner.conjuncts left c = some r → ∀ d : Draft, d.Keeps c → d.need = .nothing →
    d.level.conjuncts = some left → d.level.negations = 0 → Accords ts finish .conjunction d c r
  unary : ∀ c r, inner.unary c = some r → ∀ d : Draft, d.Keeps c → d.Ready ts finish c →
    Accords ts finish .unary d c r
  primary : ∀ c r, inner.primary c = some r → ∀ d : Draft, d.Keeps c → d.Ready ts finish c →
    (c.next ts finish).kind ≠ .negation → Accords ts finish .primary d c r

section

variable {inner : Readers} (hinner : Accordant ts finish inner) {d : Draft} {c : Cursor} {r : Returned}

include hinner

-- A production and the loop that it goes on with differ only in what `join` makes of the next operand.
theorem accords_conjuncts_after (join : Filter → Filter) (hd : d.Keeps c) (hready : d.Ready ts finish c)
    (hz : d.level.negations = 0) (hplace : ∀ f, d.level.place f = { d.level with conjuncts := some (join f) })
    (h : (do
      let (result, after) ← inner.unary c
      match result with
      | .ok f => inner.conjuncts (join f) after
      | .error m => some (.error m, after)) = some r) :
    Accords ts finish .conjunction d c r := by
  refine accords_of_first hd hz (fun r h => hinner.unary c r h d hd hready) ?_ ?_ h
  · rintro f l rfl
    rw [hplace]
    exact ⟨hz, fun _ _ h => h⟩
  · rintro f after l r h rfl _ hkeeps
    rw [hplace] at hkeeps ⊢
    exact hinner.conjuncts (join f) after r h _ hkeeps rfl rfl hz

theorem accords_alternatives_after (join : Filter → Filter) (hd : d.Keeps c) (hawaits : d.Awaits .conjunction)
    (hjoin : ∀ f, Level.result? { d.level with conjuncts := some f } = some (join f))
    (h : (do
      let (result, after) ← inner.conjunction c
      match result with
      | .ok f => inner.alternatives (join f) after
      | .error m => some (.error m, after)) = some r) :
    Accords ts finish .disjunction d c r := by
  have hz : d.level.negations = 0 := hawaits.2.2
  refine accords_of_first hd hz (fun r h => hinner.conjunction c r h d hd hawaits) ?_ ?_ h
  · rintro f l rfl
    exact ⟨hz, fun _ _ h => h⟩
  · rintro f after l r h rfl hstops hkeeps
    exact hinner.alternatives (join f) after r h _ hkeeps rfl (hjoin f) hz hstops

theorem accords_conjunction (hd : d.Keeps c) (hawaits : d.Awaits .conjunction)
    (h : (inner.calling (ts ++ [finish])).conjunction c = some r) : Accords ts finish .conjunction d c r := by
  obtain ⟨hneed, hnone, hz⟩ := hawaits
  exact accords_conjuncts_after hinner (fun f => f) hd (.inl hneed) hz (Level.place_first hnone hz) h

theorem accords_disjunction (hd : d.Keeps c) (hawaits : d.Awaits .disjunction)
    (h : (inner.calling (ts ++ [finish])).disjunction c = some r) : Accords ts finish .disjunction d c r := by
  obtain ⟨hneed, hlevel⟩ := hawaits
  have hconjunction : d.Awaits .conjunction := ⟨hneed, by rw [hlevel], by rw [hlevel]⟩
  exact accords_alternatives_after hinner (fun f => f) hd hconjunction (fun f => by simp [Level.result?, hlevel]) h

end

section

variable (hfinish : finish.kind = .finish)

include hfinish

theorem accords_addTerm {d : Draft} {c : Cursor} (hd : d.depth ≤ maxDepth) (hreadings : d.readings = c.readings)
    (hk : (c.next ts finish).kind.isContent) {name : Text} {first : Token}
    (hstep : d.step? (c.next ts finish) = some (d.addTerm name (c.next ts finish).text first (c.next ts finish))) :
    Accords ts finish .primary d c (.ok (.term name (c.next ts finish).text),
      (c.advance (ts ++ [finish])).addTerm name (c.next ts finish).text first (c.next ts finish)) := by
  have hend : (c.next ts finish).kind ≠ .finish := by
    intro h
    rw [h] at hk
    cases hk
  have hread := Draft.readFrom_step hfinish hd hend hstep
  refine .filter (l := d.level.place _) rfl trivial (c.depth_advance _) ?_
  rw [hread, Draft.addTerm, hreadings, ← c.readings_advance (ts ++ [finish])]
  rfl

theorem accords_keyword {d : Draft} {c : Cursor} (hd : d.Keeps c) (hready : d.Ready ts finish c)
    (hk : (c.next ts finish).kind.isContent) :
    Accords ts finish .primary d c (.ok (.term keywordName (c.next ts finish).text),
      (c.advance (ts ++ [finish])).addTerm keywordName (c.next ts finish).text (c.next ts finish)
        (c.next ts finish)) := by
  refine accords_addTerm hfinish hd.within hd.readings hk (Draft.step?_of_beginTerm? hready.awaitsTerm ?_)
  cases hkind : (c.next ts finish).kind <;> simp_all [Draft.beginTerm?, Token.Kind.isContent]

theorem accords_content {d : Draft} {c : Cursor} {name colon : Token} (hd : d.depth ≤ maxDepth)
    (hreadings : d.readings = c.readings) (hneed : d.need = .content name colon) :
    Accords ts finish .primary d c (content (ts ++ [finish]) name colon c) := by
  have hfilter := c.filter_peek? ts (p := fun t => t.kind.isContent && t.span.start == colon.span.stop)
    (by rw [hfinish]; rfl)
  rw [content, hfilter]
  by_cases hk : (c.next ts finish).kind.isContent ∧ (c.next ts finish).span.start = colon.span.stop
  · rw [if_pos (by simpa using hk)]
    exact accords_addTerm hfinish hd hreadings hk.1 (by rw [Draft.step?, hneed]; exact if_pos hk)
  · rw [if_neg (by simpa using hk)]
    have hread := Draft.read_contentless hd hneed hk
    rw [Draft.blame, if_neg (Nat.not_lt.2 hd), hneed, hreadings] at hread
    dsimp only
    split
    · next hat =>
        rw [Cursor.isAt_iff hfinish rfl] at hat
        rw [Cursor.unexpected_eq hfinish]
        refine .fault (hread.trans ?_)
        cases hkind : (c.next ts finish).kind <;> simp_all [Draft.refuse]
    · next hat =>
        rw [Cursor.isAt_iff hfinish rfl] at hat
        refine .fault (hread.trans ?_)
        cases hkind : (c.next ts finish).kind <;> simp_all

theorem accords_qualifier {d : Draft} {c : Cursor} (hd : d.Keeps c) (hready : d.Ready ts finish c)
    (hk : (c.next ts finish).kind = .name) :
    Accords ts finish .primary d c (qualifier (ts ++ [finish]) c) := by
  have hpeek : c.peek? (ts ++ [finish]) = some (c.next ts finish) := by
    rcases c.peek?_cases ts finish with h | ⟨-, h⟩
    · exact h
    · simp [h, hfinish] at hk
  let named : Draft := { d with need := .colon (c.next ts finish) }
  have hname : d.readFrom ts finish c = named.readFrom ts finish (c.advance (ts ++ [finish])) :=
    Draft.readFrom_step hfinish hd.within (by simp [hk])
      (Draft.step?_of_beginTerm? hready.awaitsTerm (by simp [Draft.beginTerm?, hk, named]))
  have hreadings : named.readings = (c.advance (ts ++ [finish])).readings := by
    rw [c.readings_advance]
    exact hd.readings
  have hfilter := (c.advance (ts ++ [finish])).filter_peek? ts (p := fun t => t.kind = .colon)
    (by rw [hfinish]; rfl)
  rw [qualifier, hpeek]
  dsimp only
  rw [hfilter]
  by_cases hcolon : ((c.advance (ts ++ [finish])).next ts finish).kind = .colon
  · rw [if_pos (decide_eq_true hcolon)]
    let awaiting : Draft := { d with need := .content (c.next ts finish) ((c.advance (ts ++ [finish])).next ts finish) }
    have hstep : named.step? ((c.advance (ts ++ [finish])).next ts finish) = some awaiting := if_pos hcolon
    have hread := Draft.readFrom_step (d := named) hfinish hd.within (by simp [hcolon]) hstep
    have hafter : awaiting.readings = ((c.advance (ts ++ [finish])).advance (ts ++ [finish])).readings := by
      rw [Cursor.readings_advance]
      exact hreadings
    have hdepth : ((c.advance (ts ++ [finish])).advance (ts ++ [finish])).depth = c.depth :=
      (Cursor.depth_advance _ _).trans (c.depth_advance _)
    exact (accords_content hfinish (d := awaiting) hd.within hafter rfl).of_read (hname.trans hread) hdepth rfl
      fun _ _ h => h
  · rw [if_neg (by simpa using hcolon)]
    have hread := Draft.read_uncoloned (d := named) hd.within rfl hcolon
    rw [Cursor.complaint_eq]
    exact .fault (hname.trans (hreadings ▸ hread))

theorem accords_negation {d : Draft} {c : Cursor} {r : Returned} {operand : Cursor → Option Returned}
    (hoperand : ∀ c r, operand c = some r → ∀ d : Draft, d.Keeps c → d.Ready ts finish c →
      Accords ts finish .unary d c r)
    (hd : d.Keeps c) (hready : d.Ready ts finish c) (hk : (c.next ts finish).kind = .negation)
    (h : (let start := c.advance (ts ++ [finish])
      if maxDepth ≤ start.depth then some (.error (start.complaint (ts ++ [finish]) .tooDeep), start)
      else do
        let (result, after) ← operand start.inward
        some (result.map .neg, after.outward)) = some r) :
    Accords ts finish .unary d c r := by
  have henters := Draft.enters_negated hfinish hd hready hk
  dsimp only at h
  split at h
  · next hdeep =>
      cases h
      exact .fault (henters.read_tooDeep hd hdeep)
  · next hdeep =>
      obtain ⟨⟨result, after⟩, hreturned, h⟩ := Option.bind_eq_some_iff.1 h
      have haccords := hoperand _ _ hreturned d.negated (henters.keeps hd hdeep) (.inl rfl)
      cases h
      exact haccords.negated henters

theorem accords_group {d : Draft} {c : Cursor} {r : Returned} {inner : Cursor → Option Returned}
    (hinner : ∀ c r, inner c = some r → ∀ d : Draft, d.Keeps c → d.Awaits .disjunction →
      Accords ts finish .disjunction d c r)
    (hd : d.Keeps c) (hready : d.Ready ts finish c) (hk : (c.next ts finish).kind = .leftParen)
    (h : (let start := c.advance (ts ++ [finish])
      if maxDepth ≤ start.depth then some (.error (start.complaint (ts ++ [finish]) .tooDeep), start)
      else do
        let (result, after) ← inner start.inward
        let back := after.outward
        match result with
        | .ok f =>
          if back.isAt (ts ++ [finish]) (· = .rightParen) then some (.ok f, back.advance (ts ++ [finish]))
          else some (.error (back.complaint (ts ++ [finish]) .expectedClose), back)
        | .error m => some (.error m, back)) = some r) :
    Accords ts finish .primary d c r := by
  have henters := Draft.enters_opened hfinish hd hready hk
  dsimp only at h
  split at h
  · next hdeep =>
      cases h
      exact .fault (henters.read_tooDeep hd hdeep)
  · next hdeep =>
      obtain ⟨⟨result, after⟩, hreturned, h⟩ := Option.bind_eq_some_iff.1 h
      have hkeeps := henters.keeps hd hdeep
      have haccords := hinner _ _ hreturned d.opened hkeeps ⟨rfl, rfl⟩
      cases result with
      | error m =>
          cases h
          exact haccords.abandoned henters
      | ok f =>
          dsimp only at h
          split at h
          · next hclose =>
              rw [Cursor.isAt_kind_iff hfinish (by simp)] at hclose
              cases h
              exact haccords.closed hfinish henters hkeeps hclose
          · next hclose =>
              rw [Cursor.isAt_kind_iff hfinish (by simp)] at hclose
              cases h
              exact haccords.unclosed hfinish henters hkeeps hclose

section

variable {inner : Readers} (hinner : Accordant ts finish inner) {d : Draft} {left : Filter} {c : Cursor} {r : Returned}

include hinner

theorem accords_conjuncts (hd : d.Keeps c) (hneed : d.need = .nothing) (hleft : d.level.conjuncts = some left)
    (hz : d.level.negations = 0) (h : (inner.calling (ts ++ [finish])).conjuncts left c = some r) :
    Accords ts finish .conjunction d c r := by
  rw [calling_conjuncts, Descent.conjuncts] at h
  cases hstart : c.conjunct? (ts ++ [finish]) with
  | none =>
      rw [hstart] at h
      cases h
      refine .of_resume hd hneed ?_ hstart
      rw [Draft.Leads, ← hleft]
  | some start =>
      rw [hstart] at h
      obtain ⟨e, he, hready, houter, hlevel, hread⟩ := Draft.read_conjunct hfinish hd hneed hstart
      have hez : e.level.negations = 0 := by rw [hlevel, hz]
      have hplace := Level.place_of_conjuncts (by rw [hlevel, hleft]) hez
      have haccords := accords_conjuncts_after hinner (.conj left) he hready hez hplace h
      exact haccords.of_read hread (Cursor.ahead_of_conjunct? hstart).depth houter fun _ _ h => hlevel ▸ h

theorem accords_alternatives (hd : d.Keeps c) (hneed : d.need = .nothing) (hleft : d.level.result? = some left)
    (hz : d.level.negations = 0) (hstop : c.conjunct? (ts ++ [finish]) = none)
    (h : (inner.calling (ts ++ [finish])).alternatives left c = some r) : Accords ts finish .disjunction d c r := by
  rw [calling_alternatives, Descent.alternatives] at h
  cases hstart : c.alternative? (ts ++ [finish]) with
  | none =>
      rw [hstart] at h
      cases h
      exact .of_resume hd hneed ⟨hleft, hz⟩ ⟨hstop, hstart⟩
  | some start =>
      rw [hstart] at h
      obtain ⟨e, he, hawaits, houter, hlevel, hread⟩ := Draft.read_alternative hfinish hd hneed hleft hz hstart
      have hjoin : ∀ f, Level.result? { e.level with conjuncts := some f } = some (.disj left f) :=
        fun f => by simp [Level.result?, hlevel]
      have haccords := accords_alternatives_after hinner (.disj left) he hawaits hjoin h
      exact haccords.of_read hread (Cursor.ahead_of_alternative? hstart).1.depth houter fun _ _ h => h

theorem accords_unary (hd : d.Keeps c) (hready : d.Ready ts finish c)
    (h : (inner.calling (ts ++ [finish])).unary c = some r) : Accords ts finish .unary d c r := by
  rw [calling_unary, Descent.unary] at h
  split at h
  · next hat =>
      rw [Cursor.isAt_kind_iff hfinish (by simp)] at hat
      exact accords_negation hfinish hinner.unary hd hready hat h
  · next hat =>
      rw [Cursor.isAt_kind_iff hfinish (by simp)] at hat
      exact (hinner.primary c r h d hd hready hat).unary

theorem accords_primary (hd : d.Keeps c) (hready : d.Ready ts finish c)
    (hnot : (c.next ts finish).kind ≠ .negation) (h : (inner.calling (ts ++ [finish])).primary c = some r) :
    Accords ts finish .primary d c r := by
  rw [calling_primary, Descent.primary] at h
  rcases c.peek?_cases ts finish with hpeek | ⟨hpeek, hnext⟩
  · rw [hpeek] at h
    dsimp only at h
    split at h
    · next hk => exact accords_group hfinish hinner.disjunction hd hready hk h
    · next hk =>
        cases h
        exact accords_qualifier hfinish hd hready hk
    · next hk =>
        cases h
        exact accords_keyword hfinish hd hready (by rw [hk]; rfl)
    · next hparen hname hcontent =>
        cases h
        rw [Cursor.unexpected_eq hfinish]
        have hk : (c.next ts finish).kind.startsTerm = false := by
          cases hkind : (c.next ts finish).kind <;> simp_all [Token.Kind.startsTerm]
        exact .fault (Draft.read_unstarted hd hready hk)
  · rw [hpeek] at h
    cases h
    rw [Cursor.unexpected_eq hfinish]
    exact .fault (Draft.read_unstarted hd hready (by rw [hnext, hfinish]; rfl))

theorem Accordant.calling : Accordant ts finish (inner.calling (ts ++ [finish])) where
  disjunction _ _ h _ hd hawaits := accords_disjunction hinner hd hawaits h
  alternatives _ _ _ h _ hd hneed hleft hz hstop := accords_alternatives hfinish hinner hd hneed hleft hz hstop h
  conjunction _ _ h _ hd hawaits := accords_conjunction hinner hd hawaits h
  conjuncts _ _ _ h _ hd hneed hleft hz := accords_conjuncts hfinish hinner hd hneed hleft hz h
  unary _ _ h _ hd hready := accords_unary hfinish hinner hd hready h
  primary _ _ h _ hd hready hnot := accords_primary hfinish hinner hd hready hnot h

end

theorem accordant (depth : Nat) : Accordant ts finish (toDepth (ts ++ [finish]) depth) := by
  induction depth with
  | zero => constructor <;> nofun
  | succ depth ih => exact Accordant.calling hfinish ih

end

end Descent

section

variable {ts : List Token} {finish : Token} (hts : ∀ t ∈ ts, t.kind ≠ .finish) (hfinish : finish.kind = .finish)

include hts hfinish

theorem filter_tooLong :
    (ts ++ [finish])[maxTokens]?.filter (fun t => t.kind ≠ .finish) = ts[maxTokens]? := by
  have hp : decide (finish.kind ≠ .finish) = false := by simp [hfinish]
  refine (Cursor.filter_peek? ts (p := fun t => t.kind ≠ .finish) hp { taken := maxTokens }).trans ?_
  rw [Cursor.next, List.head?_drop]
  cases hlong : ts[maxTokens]? with
  | none => simp [hfinish]
  | some t => simp [hts t (List.mem_of_getElem? hlong)]

theorem atEnd_iff_drop (c : Cursor) : c.atEnd (ts ++ [finish]) ↔ ts.drop c.taken = [] := by
  rw [Cursor.atEnd_eq hfinish, decide_eq_true_eq, Cursor.next]
  cases hdrop : ts.drop c.taken with
  | nil => simp [hfinish]
  | cons t rest =>
      have hmem : t ∈ ts := List.mem_of_mem_drop (hdrop ▸ List.mem_cons_self)
      simp [hts t hmem]

theorem expression_eq (hne : ts ≠ []) (hshort : ts[maxTokens]? = none) :
    ∃ result after, expression (ts ++ [finish]) {} = some (result, after) ∧
      Draft.read finish {} ts = ⟨after.readings, result⟩ := by
  have hkeeps : Draft.Keeps {} {} := ⟨rfl, rfl, Nat.zero_le _⟩
  obtain ⟨returned, hreturned⟩ := Option.isSome_iff_exists.1 ((total_readers (ts ++ [finish])).disjunction {})
  rw [expression, filter_tooLong hts hfinish, hshort]
  dsimp only
  rw [if_neg (by rw [atEnd_iff_drop hts hfinish]; exact hne), hreturned]
  cases (accordant hfinish _).disjunction {} returned hreturned {} hkeeps ⟨rfl, rfl⟩ with
  | @fault m after hread => exact ⟨.error m, after, rfl, hread⟩
  | @filter f after l hleads hstops hdepth hread =>
      obtain ⟨hf, hz⟩ := hleads
      by_cases hend : after.atEnd (ts ++ [finish])
      · refine ⟨.ok f, after, by simp [hend], hread.trans ?_⟩
        rw [atEnd_iff_drop hts hfinish] at hend
        rw [Draft.readFrom, hend, Draft.read]
        simp [Draft.complete?, Draft.resume, hf]
      · refine ⟨.error (after.unexpected (ts ++ [finish])), after, by simp [hend], hread.trans ?_⟩
        have hnext : after.next ts finish ≠ finish := by
          rw [Cursor.atEnd_eq hfinish, decide_eq_true_eq] at hend
          exact fun h => hend ((congrArg Token.kind h).trans hfinish)
        have hwithin := (hkeeps.resume rfl hz hdepth).within
        rw [Draft.read_behind hfinish hwithin rfl hstops (absurd · hnext) fun _ => rfl, Cursor.unexpected_eq hfinish]
        rfl

end

theorem descend_eq_read (source : Text) : descend source = some (read source) := by
  have hts : ∀ t ∈ Token.scan source, t.kind ≠ .finish := fun t ht => (Token.solid_of_mem_scan ht).1
  have hfinish : (Token.finish source).kind = .finish := rfl
  simp only [descend, read, Token.all]
  by_cases hempty : Token.scan source = []
  · rw [hempty]
    rfl
  · rw [if_neg hempty]
    cases hlong : (Token.scan source)[maxTokens]? with
    | some t =>
        rw [expression, filter_tooLong hts hfinish, hlong]
        rfl
    | none =>
        obtain ⟨result, after, hexpression, hread⟩ := expression_eq hts hfinish hempty hlong
        rw [hexpression, hread]
        rfl

end Triage.Filter
