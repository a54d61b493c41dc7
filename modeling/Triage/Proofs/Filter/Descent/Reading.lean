import Triage.Proofs.Filter.Completeness
import Triage.Proofs.Filter.Descent.Progress

namespace Triage.Filter

open Grammar

namespace Cursor

variable {ts : List Token} {finish : Token}

def next (ts : List Token) (finish : Token) (c : Cursor) : Token := (ts.drop c.taken).head?.getD finish

theorem peek?_cases (ts : List Token) (finish : Token) (c : Cursor) :
    c.peek? (ts ++ [finish]) = some (c.next ts finish) ∨
      c.peek? (ts ++ [finish]) = none ∧ c.next ts finish = finish := by
  rw [peek?, next, List.head?_drop]
  rcases Nat.lt_trichotomy c.taken ts.length with h | h | h
  · left
    rw [List.getElem?_append_left h, List.getElem?_eq_getElem h]
    rfl
  · left
    rw [h, List.getElem?_concat_length, List.getElem?_eq_none (Nat.le_refl _)]
    rfl
  · right
    have hlength : (ts ++ [finish]).length ≤ c.taken := by simpa using Nat.succ_le_of_lt h
    rw [List.getElem?_eq_none hlength, List.getElem?_eq_none (Nat.le_of_lt h)]
    exact ⟨rfl, rfl⟩

theorem filter_peek? (ts : List Token) {p : Token → Bool} (hp : p finish = false) (c : Cursor) :
    (c.peek? (ts ++ [finish])).filter p = if p (c.next ts finish) then some (c.next ts finish) else none := by
  rcases c.peek?_cases ts finish with h | ⟨h, hnext⟩
  · rw [h, Option.filter_some]
  · rw [h, hnext, hp]
    rfl

theorem complaint_eq (c : Cursor) (fault : SyntaxFault) :
    c.complaint (ts ++ [finish]) fault = ⟨fault, c.next ts finish⟩ := by
  rcases c.peek?_cases ts finish with h | ⟨h, hnext⟩
  · simp [complaint, current, h]
  · simp [complaint, current, h, hnext]

theorem depth_advance (tokens : List Token) (c : Cursor) : (c.advance tokens).depth = c.depth :=
  c.ahead_advance.depth

theorem readings_advance (tokens : List Token) (c : Cursor) : (c.advance tokens).readings = c.readings := by
  rw [advance]
  split <;> rfl

theorem depth_outward {tokens : List Token} {c after : Cursor} (h : after.depth = (c.advance tokens).inward.depth) :
    after.outward.depth = c.depth := by
  rw [← c.depth_advance tokens]
  exact Nat.sub_eq_of_eq_add h

def Stops (tokens : List Token) (c : Cursor) : Category → Prop
  | .disjunction => c.conjunct? tokens = none ∧ c.alternative? tokens = none
  | .conjunction => c.conjunct? tokens = none
  | .unary | .primary => True

section

variable (hfinish : finish.kind = .finish)

include hfinish

theorem atEnd_eq (c : Cursor) : c.atEnd (ts ++ [finish]) = decide ((c.next ts finish).kind = .finish) := by
  rcases c.peek?_cases ts finish with h | ⟨h, hnext⟩
  · rw [atEnd, h]
    rfl
  · rw [atEnd, h, hnext, hfinish]
    rfl

theorem isAt_iff {c : Cursor} {kinds : Token.Kind → Bool} (hkinds : kinds .finish = false) :
    c.isAt (ts ++ [finish]) kinds ↔ kinds (c.next ts finish).kind := by
  rw [isAt, atEnd_eq hfinish]
  rcases c.peek?_cases ts finish with h | ⟨h, hnext⟩
  · rw [h]
    by_cases hk : (c.next ts finish).kind = .finish <;> simp [hk, hkinds]
  · simp [hnext, hfinish, hkinds]

theorem isAt_kind_iff {c : Cursor} {k : Token.Kind} (hk : k ≠ .finish) :
    c.isAt (ts ++ [finish]) (· = k) ↔ (c.next ts finish).kind = k := by
  rw [isAt_iff hfinish (decide_eq_false hk.symm), decide_eq_true_eq]

theorem startsTerm_iff {c : Cursor} :
    ((c.peek? (ts ++ [finish])).any fun t => t.kind.startsTerm) ↔ (c.next ts finish).kind.startsTerm := by
  rcases c.peek?_cases ts finish with h | ⟨h, hnext⟩
  · rw [h]
    rfl
  · simp [h, hnext, hfinish, Token.Kind.startsTerm]

theorem unexpected_eq (c : Cursor) :
    c.unexpected (ts ++ [finish]) = ⟨Draft.refuse (c.next ts finish), c.next ts finish⟩ := by
  rcases c.peek?_cases ts finish with h | ⟨h, hnext⟩
  · simp [unexpected, complaint, current, h]
  · simp [unexpected, complaint, current, h, hnext, Draft.refuse, hfinish]

theorem kind_of_conjunct? {c : Cursor} (h : c.conjunct? (ts ++ [finish]) = none) :
    (c.next ts finish).kind ≠ .conjunction ∧ (c.next ts finish).kind.startsTerm = false := by
  rw [conjunct?] at h
  split at h
  · cases h
  · next hand =>
      split at h
      · cases h
      · next hstarts =>
          rw [isAt_kind_iff hfinish (by simp)] at hand
          rw [startsTerm_iff hfinish] at hstarts
          exact ⟨hand, Bool.eq_false_iff.2 hstarts⟩

theorem kind_of_alternative? {c : Cursor} (h : c.alternative? (ts ++ [finish]) = none) :
    (c.next ts finish).kind ≠ .disjunction := by
  rw [alternative?] at h
  split at h
  · cases h
  · next hor =>
      rw [isAt_kind_iff hfinish (by simp)] at hor
      exact hor

end

end Cursor

theorem Level.place_first {l : Level} (hc : l.conjuncts = none) (hz : l.negations = 0) (f : Filter) :
    l.place f = { l with conjuncts := some f } := by
  simp [place, hc, hz, negate]

namespace Draft

def readFrom (ts : List Token) (finish : Token) (d : Draft) (c : Cursor) : Outcome := d.read finish (ts.drop c.taken)

structure Keeps (d : Draft) (c : Cursor) : Prop where
  depth : d.depth = c.depth
  readings : d.readings = c.readings
  within : d.depth ≤ maxDepth

def resume (d : Draft) (l : Level) (readings : List Reading) : Draft :=
  { d with level := l, readings := readings, need := .nothing }

/-- Whether a term may begin at a cursor, and does so if an operator might come there too. -/
def Ready (ts : List Token) (finish : Token) (d : Draft) (c : Cursor) : Prop :=
  d.need = .term ∨ d.need = .nothing ∧ (c.next ts finish).kind.startsTerm

def opened (d : Draft) : Draft := { d with outer := d.level :: d.outer, level := {}, need := .term }

def negated (d : Draft) : Draft :=
  { d with level := { d.level with negations := d.level.negations + 1 }, need := .term }

structure Enters (ts : List Token) (finish : Token) (d : Draft) (c : Cursor) (e : Draft) : Prop where
  need : e.need = .term
  depth : e.depth = d.depth + 1
  readings : e.readings = d.readings
  read : d.readFrom ts finish c = e.readFrom ts finish (c.advance (ts ++ [finish]))

variable {ts : List Token} {finish : Token} {c start : Cursor} {d e : Draft}

theorem Ready.awaitsTerm (h : d.Ready ts finish c) : d.AwaitsTerm := h.imp_right And.left

theorem Keeps.resume (h : d.Keeps c) {l : Level} {after : Cursor} (hd : d.level.negations = 0) (hl : l.negations = 0)
    (hdepth : after.depth = c.depth) : (d.resume l after.readings).Keeps after := by
  have heq : (d.resume l after.readings).depth = d.depth := by rw [Draft.depth, Draft.depth, hd, ← hl]; rfl
  exact ⟨heq.trans (h.depth.trans hdepth.symm), rfl, heq ▸ h.within⟩

theorem readFrom_step (hfinish : finish.kind = .finish) (hd : d.depth ≤ maxDepth)
    (hk : (c.next ts finish).kind ≠ .finish) (h : d.step? (c.next ts finish) = some e) :
    d.readFrom ts finish c = e.readFrom ts finish (c.advance (ts ++ [finish])) := by
  have hend : c.atEnd (ts ++ [finish]) = false := by rw [Cursor.atEnd_eq hfinish, decide_eq_false hk]
  have hnext : d.next? (c.next ts finish) = some e := by rw [next?, if_neg (Nat.not_lt.2 hd), h]
  rw [readFrom, readFrom, Cursor.taken_advance hend]
  rw [Cursor.next] at hnext hk
  cases hdrop : ts.drop c.taken with
  | nil =>
      rw [hdrop] at hk
      exact absurd hfinish hk
  | cons t rest =>
      rw [hdrop] at hnext
      rw [← List.tail_drop, hdrop, read]
      simp only [List.head?_cons, Option.getD_some] at hnext
      rw [hnext]
      rfl

theorem readFrom_blame (hc : c.next ts finish = finish → d.complete? = none)
    (h : d.next? (c.next ts finish) = none) :
    d.readFrom ts finish c = ⟨d.readings, .error (d.blame (c.next ts finish))⟩ := by
  rw [readFrom]
  rw [Cursor.next] at h hc ⊢
  cases hdrop : ts.drop c.taken with
  | nil =>
      rw [read, hc (by rw [hdrop]; rfl)]
      rfl
  | cons t rest =>
      simp only [hdrop, List.head?_cons, Option.getD_some] at h ⊢
      rw [read, h]

section

variable (hfinish : finish.kind = .finish)

include hfinish

theorem read_alternative {left : Filter} (hd : d.Keeps c) (hneed : d.need = .nothing)
    (hleft : d.level.result? = some left) (hz : d.level.negations = 0)
    (hstart : c.alternative? (ts ++ [finish]) = some start) :
    ∃ e : Draft, e.Keeps start ∧ e.Awaits .conjunction ∧ e.outer = d.outer ∧ e.level = { alternatives := some left } ∧
      d.readFrom ts finish c = e.readFrom ts finish start := by
  rw [Cursor.alternative?] at hstart
  split at hstart
  · next hor =>
      cases hstart
      rw [Cursor.isAt_kind_iff hfinish (by simp)] at hor
      let e : Draft := { d with level := { alternatives := some left }, need := .term }
      have hstep : d.step? (c.next ts finish) = some e :=
        step?_of_followTerm? hneed (by simp [beginTerm?, hor]) (by simp [followTerm?, hor, Level.alternative, hleft, e])
      have hdepth : e.depth = d.depth := by rw [depth, depth, hz]
      refine ⟨e, ⟨?_, ?_, ?_⟩, ⟨rfl, rfl, rfl⟩, rfl, rfl, ?_⟩
      · rw [hdepth, hd.depth, Cursor.depth_advance]
      · rw [Cursor.readings_advance]
        exact hd.readings
      · rw [hdepth]
        exact hd.within
      · exact readFrom_step hfinish hd.within (by simp [hor]) hstep
  · cases hstart

theorem read_conjunct (hd : d.Keeps c) (hneed : d.need = .nothing)
    (hstart : c.conjunct? (ts ++ [finish]) = some start) :
    ∃ e : Draft, e.Keeps start ∧ e.Ready ts finish start ∧ e.outer = d.outer ∧ e.level = d.level ∧
      d.readFrom ts finish c = e.readFrom ts finish start := by
  rw [Cursor.conjunct?] at hstart
  split at hstart
  · next hand =>
      cases hstart
      rw [Cursor.isAt_kind_iff hfinish (by simp)] at hand
      let e : Draft := { d with need := .term }
      have hstep : d.step? (c.next ts finish) = some e :=
        step?_of_followTerm? hneed (by simp [beginTerm?, hand]) (by simp [followTerm?, hand, e])
      refine ⟨e, ⟨?_, ?_, hd.within⟩, .inl rfl, rfl, rfl, ?_⟩
      · rw [Cursor.depth_advance]
        exact hd.depth
      · rw [Cursor.readings_advance]
        exact hd.readings
      · exact readFrom_step hfinish hd.within (by simp [hand]) hstep
  · split at hstart
    · next hstarts =>
        cases hstart
        rw [Cursor.startsTerm_iff hfinish] at hstarts
        exact ⟨d, hd, .inr ⟨hneed, hstarts⟩, rfl, rfl, rfl⟩
    · cases hstart

theorem enters_negated (hd : d.Keeps c) (hready : d.Ready ts finish c) (hk : (c.next ts finish).kind = .negation) :
    d.Enters ts finish c d.negated where
  need := rfl
  depth := by
    rw [depth, depth]
    exact Nat.add_right_comm _ _ _
  readings := rfl
  read := readFrom_step hfinish hd.within (by simp [hk])
    (step?_of_beginTerm? hready.awaitsTerm (by simp [beginTerm?, hk, negated]))

theorem enters_opened (hd : d.Keeps c) (hready : d.Ready ts finish c) (hk : (c.next ts finish).kind = .leftParen) :
    d.Enters ts finish c d.opened where
  need := rfl
  depth := by
    simp only [depth, opened, List.foldr_cons]
    omega
  readings := rfl
  read := readFrom_step hfinish hd.within (by simp [hk])
    (step?_of_beginTerm? hready.awaitsTerm (by simp [beginTerm?, hk, opened]))

theorem read_close {l : Level} {f : Filter} {readings : List Reading}
    (hd : (d.opened.resume l readings).depth ≤ maxDepth) (hf : l.result? = some f)
    (hk : (c.next ts finish).kind = .rightParen) :
    (d.opened.resume l readings).readFrom ts finish c =
      (d.resume (d.level.place f) readings).readFrom ts finish (c.advance (ts ++ [finish])) :=
  readFrom_step hfinish hd (by simp [hk])
    (step?_of_followTerm? rfl (by simp [beginTerm?, hk]) (by simp [followTerm?, hk, close?, resume, opened, hf]))

end

theorem complete?_of_need (h : d.need ≠ .nothing) : d.complete? = none := by
  rw [complete?, if_neg fun hc => h hc.1]

theorem readFrom_refused (hd : d.depth ≤ maxDepth) (hc : c.next ts finish = finish → d.complete? = none)
    (h : d.step? (c.next ts finish) = none) :
    d.readFrom ts finish c = ⟨d.readings, .error (d.blame (c.next ts finish))⟩ :=
  readFrom_blame hc (by rw [next?, if_neg (Nat.not_lt.2 hd), h])

theorem beginTerm?_eq_none {t : Token} (h : t.kind.startsTerm = false) : d.beginTerm? t = none := by
  rw [beginTerm?]
  split <;> simp_all [Token.Kind.startsTerm]

theorem read_unstarted (hd : d.Keeps c) (hready : d.Ready ts finish c)
    (hk : (c.next ts finish).kind.startsTerm = false) :
    d.readFrom ts finish c = ⟨c.readings, .error ⟨refuse (c.next ts finish), c.next ts finish⟩⟩ := by
  have hneed : d.need = .term := hready.resolve_right fun h => Bool.false_ne_true (hk.symm.trans h.2)
  have hstep : d.step? (c.next ts finish) = none := by
    rw [step?, hneed]
    exact beginTerm?_eq_none hk
  rw [readFrom_refused hd.within (fun _ => complete?_of_need (by simp [hneed])) hstep, blame,
    if_neg (Nat.not_lt.2 hd.within), hneed, hd.readings]

theorem Enters.read_tooDeep (h : d.Enters ts finish c e) (hd : d.Keeps c)
    (hdeep : maxDepth ≤ (c.advance (ts ++ [finish])).depth) :
    d.readFrom ts finish c = ⟨(c.advance (ts ++ [finish])).readings,
      .error ((c.advance (ts ++ [finish])).complaint (ts ++ [finish]) .tooDeep)⟩ := by
  rw [Cursor.depth_advance, ← hd.depth] at hdeep
  have hlt : maxDepth < e.depth := by
    rw [h.depth]
    exact Nat.lt_succ_of_le hdeep
  have hcomplete : e.complete? = none := complete?_of_need (by simp [h.need])
  rw [h.read, readFrom_blame (fun _ => hcomplete) (by rw [next?, if_pos hlt]), blame, if_pos hlt, h.readings,
    hd.readings, Cursor.readings_advance, Cursor.complaint_eq]

theorem Enters.keeps (h : d.Enters ts finish c e) (hd : d.Keeps c)
    (hdeep : ¬ maxDepth ≤ (c.advance (ts ++ [finish])).depth) :
    e.Keeps (c.advance (ts ++ [finish])).inward := by
  have hdepth : (c.advance (ts ++ [finish])).inward.depth = c.depth + 1 := congrArg (· + 1) (c.depth_advance _)
  rw [Cursor.depth_advance, ← hd.depth] at hdeep
  refine ⟨by rw [h.depth, hd.depth, hdepth], ?_, ?_⟩
  · rw [h.readings, hd.readings]
    exact (c.readings_advance _).symm
  · rw [h.depth]
    exact Nat.lt_of_not_le hdeep

theorem read_uncoloned {name : Token} (hd : d.depth ≤ maxDepth) (hneed : d.need = .colon name)
    (hk : (c.next ts finish).kind ≠ .colon) :
    d.readFrom ts finish c = ⟨d.readings, .error ⟨.expectedColon name.lexeme, c.next ts finish⟩⟩ := by
  have hstep : d.step? (c.next ts finish) = none := by
    rw [step?, hneed]
    exact if_neg hk
  rw [readFrom_refused hd (fun _ => complete?_of_need (by simp [hneed])) hstep, blame, if_neg (Nat.not_lt.2 hd), hneed]

theorem read_contentless {name colon : Token} (hd : d.depth ≤ maxDepth) (hneed : d.need = .content name colon)
    (hk : ¬ ((c.next ts finish).kind.isContent ∧ (c.next ts finish).span.start = colon.span.stop)) :
    d.readFrom ts finish c = ⟨d.readings, .error (d.blame (c.next ts finish))⟩ := by
  have hstep : d.step? (c.next ts finish) = none := by
    rw [step?, hneed]
    exact if_neg hk
  exact readFrom_refused hd (fun _ => complete?_of_need (by simp [hneed])) hstep

theorem read_behind (hfinish : finish.kind = .finish) (hd : d.depth ≤ maxDepth) (hneed : d.need = .nothing)
    (hstops : c.Stops (ts ++ [finish]) .disjunction) (hcomplete : c.next ts finish = finish → d.complete? = none)
    (hclose : (c.next ts finish).kind = .rightParen → d.outer = []) :
    d.readFrom ts finish c =
      ⟨d.readings, .error ⟨if d.outer = [] then refuse (c.next ts finish) else .expectedClose, c.next ts finish⟩⟩ := by
  obtain ⟨hand, hstarts⟩ := Cursor.kind_of_conjunct? hfinish hstops.1
  have hor := Cursor.kind_of_alternative? hfinish hstops.2
  have hfollow : d.followTerm? (c.next ts finish) = none := by
    rw [followTerm?]
    split
    · next hk => exact absurd hk hand
    · next hk => exact absurd hk hor
    · next hk => rw [close?, hclose hk]
    · rfl
  have hstep : d.step? (c.next ts finish) = none := by
    rw [step?, hneed]
    exact Option.or_eq_none_iff.2 ⟨beginTerm?_eq_none hstarts, hfollow⟩
  rw [readFrom_refused hd hcomplete hstep, blame, if_neg (Nat.not_lt.2 hd), hneed]

end Draft

end Triage.Filter
