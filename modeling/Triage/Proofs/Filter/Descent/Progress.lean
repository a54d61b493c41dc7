import Triage.Proofs.Filter.Descent

/-!
What the productions do to the cursor, and that they return. Whatever a production returns, it has closed every level
that it opened and has stayed in the text; with a filter, it has moved on. Since the loops move on too, no production goes
on for ever: between two tokens that are taken there are at most four calls, and so a depth that grows with what remains
is enough. At such a depth the productions are what they are at every greater one.
-/

namespace Triage.Filter

namespace Cursor

variable {tokens : List Token}

structure Ahead (tokens : List Token) (c after : Cursor) : Prop where
  depth : after.depth = c.depth
  forward : c.taken ≤ after.taken
  inside : ∀ n, (tokens[n]?.all fun t => t.kind = .finish) → c.taken ≤ n → after.taken ≤ n

theorem Ahead.refl (c : Cursor) : c.Ahead tokens c := ⟨rfl, Nat.le_refl _, fun _ _ h => h⟩

theorem Ahead.trans {c d e : Cursor} (h : c.Ahead tokens d) (h' : d.Ahead tokens e) : c.Ahead tokens e :=
  ⟨h'.depth.trans h.depth, Nat.le_trans h.forward h'.forward, fun n hn hc => h'.inside n hn (h.inside n hn hc)⟩

theorem Ahead.outward {c after : Cursor} (h : c.inward.Ahead tokens after) : c.Ahead tokens after.outward :=
  ⟨Nat.sub_eq_of_eq_add h.depth, h.forward, h.inside⟩

theorem Ahead.addTerm {c after : Cursor} (h : c.Ahead tokens after) (name content : Text) (first last : Token) :
    c.Ahead tokens (after.addTerm name content first last) :=
  ⟨h.depth, h.forward, h.inside⟩

theorem taken_advance {c : Cursor} (h : c.atEnd tokens = false) : (c.advance tokens).taken = c.taken + 1 := by
  rw [advance, h]
  rfl

theorem ahead_advance (c : Cursor) : c.Ahead tokens (c.advance tokens) := by
  cases hend : c.atEnd tokens with
  | true =>
      rw [advance, hend]
      exact .refl c
  | false =>
      refine ⟨by rw [advance, hend]; rfl, by rw [taken_advance hend]; exact Nat.le_succ _, fun n hn hc => ?_⟩
      have hne : c.taken ≠ n := by
        rintro rfl
        exact absurd hn (Bool.eq_false_iff.1 hend)
      rw [taken_advance hend]
      exact Nat.lt_of_le_of_ne hc hne

theorem atEnd_of_isAt {c : Cursor} {kinds : Token.Kind → Bool} (h : c.isAt tokens kinds) : c.atEnd tokens = false := by
  rw [isAt, Bool.and_eq_true, Bool.not_eq_true'] at h
  exact h.1

theorem atEnd_of_peek? {c : Cursor} {t : Token} (h : c.peek? tokens = some t) (hk : t.kind ≠ .finish) :
    c.atEnd tokens = false := by
  simp [atEnd, h, hk]

theorem taken_lt_advance {c : Cursor} (h : c.atEnd tokens = false) : c.taken < (c.advance tokens).taken := by
  rw [taken_advance h]
  exact Nat.lt_succ_self _

theorem ahead_of_alternative? {c start : Cursor} (h : c.alternative? tokens = some start) :
    c.Ahead tokens start ∧ c.taken < start.taken := by
  rw [alternative?] at h
  split at h
  · next hat =>
      cases h
      exact ⟨ahead_advance c, taken_lt_advance (atEnd_of_isAt hat)⟩
  · cases h

theorem ahead_of_conjunct? {c start : Cursor} (h : c.conjunct? tokens = some start) : c.Ahead tokens start := by
  rw [conjunct?] at h
  split at h
  · cases h
    exact ahead_advance c
  · split at h
    · cases h
      exact .refl c
    · cases h

def remaining (tokens : List Token) (c : Cursor) : Nat := tokens.length - c.taken

theorem Ahead.remaining_le {c after : Cursor} (h : c.Ahead tokens after) :
    after.remaining tokens ≤ c.remaining tokens :=
  Nat.sub_le_sub_left h.forward _

theorem Ahead.remaining_lt {c after : Cursor} (h : c.Ahead tokens after) (hlt : c.taken < after.taken) :
    after.remaining tokens < c.remaining tokens := by
  have hc : c.taken < tokens.length := by
    refine Nat.lt_of_not_le fun hle => ?_
    have hnone : tokens[c.taken]? = none := List.getElem?_eq_none hle
    exact absurd (h.inside c.taken (by rw [hnone]; rfl) (Nat.le_refl _)) (Nat.not_le_of_lt hlt)
  exact Nat.sub_lt_sub_left hc hlt

theorem remaining_advance_lt {c : Cursor} (h : c.atEnd tokens = false) :
    (c.advance tokens).remaining tokens < c.remaining tokens :=
  c.ahead_advance.remaining_lt (taken_lt_advance h)

end Cursor

namespace Descent

variable {tokens : List Token}

structure Moves (tokens : List Token) (c : Cursor) (r : Returned) : Prop where
  ahead : c.Ahead tokens r.2
  consumes : ∀ f, r.1 = .ok f → c.taken < r.2.taken

theorem Moves.of_advance {c : Cursor} {r : Returned} (hend : c.atEnd tokens = false)
    (h : (c.advance tokens).Ahead tokens r.2) : Moves tokens c r :=
  ⟨c.ahead_advance.trans h, fun _ _ => Nat.lt_of_lt_of_le (Cursor.taken_lt_advance hend) h.forward⟩

theorem Moves.error {c after : Cursor} (m : Misreading) (h : c.Ahead tokens after) :
    Moves tokens c (.error m, after) :=
  ⟨h, fun _ hf => nomatch hf⟩

theorem Moves.and_then {c after : Cursor} {f : Filter} {r : Returned} (h : Moves tokens c (.ok f, after))
    (h' : after.Ahead tokens r.2) : Moves tokens c r :=
  ⟨h.ahead.trans h', fun _ _ => Nat.lt_of_lt_of_le (h.consumes f rfl) h'.forward⟩

theorem Moves.remaining_lt {c after : Cursor} {f : Filter} (h : Moves tokens c (.ok f, after)) :
    after.remaining tokens < c.remaining tokens :=
  h.ahead.remaining_lt (h.consumes f rfl)

theorem Moves.after {c start : Cursor} {r : Returned} (h : Moves tokens start r) (hstart : c.Ahead tokens start) :
    Moves tokens c r :=
  ⟨hstart.trans h.ahead, fun f hf => Nat.lt_of_le_of_lt hstart.forward (h.consumes f hf)⟩

theorem ahead_content (name colon : Token) (c : Cursor) : c.Ahead tokens (content tokens name colon c).2 := by
  rw [content]
  split
  · exact c.ahead_advance.addTerm _ _ _ _
  · split <;> exact .refl c

theorem moves_qualifier (c : Cursor) : Moves tokens c (qualifier tokens c) := by
  rw [qualifier]
  split
  · exact .error _ (.refl c)
  · next name _ =>
      dsimp only
      split
      · next colon hcolon =>
          obtain ⟨hpeek, hkind⟩ := Option.filter_eq_some_iff.1 hcolon
          have hend : (c.advance tokens).atEnd tokens = false :=
            Cursor.atEnd_of_peek? hpeek (by rw [of_decide_eq_true hkind]; decide)
          exact (Moves.of_advance hend (ahead_content name colon _)).after c.ahead_advance
      · exact .error _ c.ahead_advance

theorem moves_of_first {c : Cursor} {r : Returned} {first : Option Returned} {rest : Filter → Cursor → Option Returned}
    (hfirst : ∀ r, first = some r → Moves tokens c r)
    (hrest : ∀ f after r, rest f after = some r → after.Ahead tokens r.2)
    (h : (do
      let (result, after) ← first
      match result with
      | .ok f => rest f after
      | .error m => some (.error m, after)) = some r) :
    Moves tokens c r := by
  obtain ⟨⟨result, after⟩, hresult, h⟩ := Option.bind_eq_some_iff.1 h
  have hmoves := hfirst _ hresult
  cases result with
  | ok f => exact hmoves.and_then (hrest f after r h)
  | error m =>
      cases h
      exact hmoves

theorem moves_group {c : Cursor} {r : Returned} {inner : Cursor → Option Returned}
    (hinner : ∀ c r, inner c = some r → Moves tokens c r) (hend : c.atEnd tokens = false)
    (h : (let start := c.advance tokens
      if maxDepth ≤ start.depth then some (.error (start.complaint tokens .tooDeep), start)
      else do
        let (result, after) ← inner start.inward
        let back := after.outward
        match result with
        | .ok f =>
          if back.isAt tokens (· = .rightParen) then some (.ok f, back.advance tokens)
          else some (.error (back.complaint tokens .expectedClose), back)
        | .error m => some (.error m, back)) = some r) :
    Moves tokens c r := by
  dsimp only at h
  split at h
  · cases h
    exact .error _ c.ahead_advance
  · obtain ⟨⟨result, after⟩, hresult, h⟩ := Option.bind_eq_some_iff.1 h
    have hahead := (hinner _ _ hresult).ahead.outward
    cases result with
    | error m =>
        cases h
        exact .of_advance hend hahead
    | ok f =>
        dsimp only at h
        split at h <;> cases h
        · exact .of_advance hend (hahead.trans (Cursor.ahead_advance _))
        · exact .of_advance hend hahead

structure Moving (tokens : List Token) (inner : Readers) : Prop where
  disjunction : ∀ c r, inner.disjunction c = some r → Moves tokens c r
  alternatives : ∀ left c r, inner.alternatives left c = some r → c.Ahead tokens r.2
  conjunction : ∀ c r, inner.conjunction c = some r → Moves tokens c r
  conjuncts : ∀ left c r, inner.conjuncts left c = some r → c.Ahead tokens r.2
  unary : ∀ c r, inner.unary c = some r → Moves tokens c r
  primary : ∀ c r, inner.primary c = some r → Moves tokens c r

section

variable {inner : Readers} (hinner : Moving tokens inner) {left : Filter} {c : Cursor} {r : Returned}

include hinner

-- A loop may end where it begins: what has moved on by then is its first operand.
theorem Moving.alternatives_calling (h : (inner.calling tokens).alternatives left c = some r) :
    c.Ahead tokens r.2 := by
  rw [calling_alternatives, Descent.alternatives] at h
  cases hstart : c.alternative? tokens with
  | none =>
      rw [hstart] at h
      cases h
      exact .refl c
  | some start =>
      rw [hstart] at h
      have hmoves := moves_of_first (hinner.conjunction start) (fun right => hinner.alternatives (.disj left right)) h
      exact (Cursor.ahead_of_alternative? hstart).1.trans hmoves.ahead

theorem Moving.conjuncts_calling (h : (inner.calling tokens).conjuncts left c = some r) : c.Ahead tokens r.2 := by
  rw [calling_conjuncts, Descent.conjuncts] at h
  cases hstart : c.conjunct? tokens with
  | none =>
      rw [hstart] at h
      cases h
      exact .refl c
  | some start =>
      rw [hstart] at h
      have hmoves := moves_of_first (hinner.unary start) (fun right => hinner.conjuncts (.conj left right)) h
      exact (Cursor.ahead_of_conjunct? hstart).trans hmoves.ahead

theorem Moving.unary_calling (h : (inner.calling tokens).unary c = some r) : Moves tokens c r := by
  rw [calling_unary, Descent.unary] at h
  split at h
  · next hat =>
      dsimp only at h
      split at h
      · cases h
        exact .error _ c.ahead_advance
      · obtain ⟨⟨result, after⟩, hresult, h⟩ := Option.bind_eq_some_iff.1 h
        have hahead := (hinner.unary _ _ hresult).ahead.outward
        cases h
        exact .of_advance (Cursor.atEnd_of_isAt hat) hahead
  · exact hinner.primary c r h

theorem Moving.primary_calling (h : (inner.calling tokens).primary c = some r) : Moves tokens c r := by
  rw [calling_primary, Descent.primary] at h
  cases hpeek : c.peek? tokens with
  | none =>
      rw [hpeek] at h
      cases h
      exact .error _ (.refl c)
  | some t =>
      rw [hpeek] at h
      dsimp only at h
      split at h
      · next hk => exact moves_group hinner.disjunction (Cursor.atEnd_of_peek? hpeek (by simp [hk])) h
      · cases h
        exact moves_qualifier c
      · next hk =>
          have hend : c.atEnd tokens = false := Cursor.atEnd_of_peek? hpeek (by simp [hk])
          cases h
          exact .of_advance hend ((Cursor.Ahead.refl _).addTerm _ _ _ _)
      · cases h
        exact .error _ (.refl c)

theorem Moving.calling : Moving tokens (inner.calling tokens) where
  disjunction c _ h := moves_of_first (hinner.conjunction c) hinner.alternatives h
  alternatives _ _ _ h := hinner.alternatives_calling h
  conjunction c _ h := moves_of_first (hinner.unary c) hinner.conjuncts h
  conjuncts _ _ _ h := hinner.conjuncts_calling h
  unary _ _ h := hinner.unary_calling h
  primary _ _ h := hinner.primary_calling h

end

theorem moving (tokens : List Token) (depth : Nat) : Moving tokens (toDepth tokens depth) := by
  induction depth with
  | zero => constructor <;> nofun
  | succ depth ih => exact ih.calling

theorem moves_disjunction {c : Cursor} {r : Returned} (h : (readers tokens).disjunction c = some r) :
    Moves tokens c r :=
  (moving tokens _).disjunction c r h

theorem moves_conjunction {c : Cursor} {r : Returned} (h : (readers tokens).conjunction c = some r) :
    Moves tokens c r :=
  (moving tokens _).conjunction c r h

theorem moves_unary {c : Cursor} {r : Returned} (h : (readers tokens).unary c = some r) : Moves tokens c r :=
  (moving tokens _).unary c r h

theorem moves_primary {c : Cursor} {r : Returned} (h : (readers tokens).primary c = some r) : Moves tokens c r :=
  (moving tokens _).primary c r h

/-- Whether the productions return at some place, called to any depth that is more than what remains asks for. -/
structure Returns (tokens : List Token) (c : Cursor) : Prop where
  disjunction : ∀ depth, 4 * c.remaining tokens + 3 < depth → ((toDepth tokens depth).disjunction c).isSome
  alternatives : ∀ f depth, 4 * c.remaining tokens + 3 < depth → ((toDepth tokens depth).alternatives f c).isSome
  conjunction : ∀ depth, 4 * c.remaining tokens + 2 < depth → ((toDepth tokens depth).conjunction c).isSome
  conjuncts : ∀ f depth, 4 * c.remaining tokens + 2 < depth → ((toDepth tokens depth).conjuncts f c).isSome
  unary : ∀ depth, 4 * c.remaining tokens + 1 < depth → ((toDepth tokens depth).unary c).isSome
  primary : ∀ depth, 4 * c.remaining tokens < depth → ((toDepth tokens depth).primary c).isSome

theorem isSome_first {first : Option Returned} {rest : Filter → Cursor → Option Returned}
    (hfirst : first.isSome) (hrest : ∀ f after, first = some (.ok f, after) → (rest f after).isSome) :
    (do
      let (result, after) ← first
      match result with
      | .ok f => rest f after
      | .error m => some (.error m, after)).isSome := by
  obtain ⟨⟨result, after⟩, hresult⟩ := Option.isSome_iff_exists.1 hfirst
  rw [hresult]
  cases result with
  | ok f => exact hrest f after hresult
  | error m => rfl

section

variable {c : Cursor} {depth : Nat}
  (hlater : ∀ later : Cursor, later.remaining tokens < c.remaining tokens → Returns tokens later)

include hlater

theorem primary_isSome (hdepth : 4 * c.remaining tokens < depth) : ((toDepth tokens depth).primary c).isSome := by
  obtain ⟨depth, rfl⟩ := Nat.exists_eq_add_one_of_ne_zero (Nat.ne_zero_of_lt hdepth)
  rw [toDepth, calling_primary, primary]
  cases hpeek : c.peek? tokens with
  | none => rfl
  | some t =>
      dsimp only
      split
      · next hk =>
          have hlt : (c.advance tokens).inward.remaining tokens < c.remaining tokens :=
            Cursor.remaining_advance_lt (Cursor.atEnd_of_peek? hpeek (by simp [hk]))
          have hreturns := (hlater (c.advance tokens).inward hlt).disjunction depth (by omega)
          split
          · rfl
          · obtain ⟨⟨result, after⟩, hresult⟩ := Option.isSome_iff_exists.1 hreturns
            rw [hresult]
            cases result with
            | error m => rfl
            | ok f =>
                dsimp only [Option.bind_eq_bind, Option.bind_some]
                split <;> rfl
      all_goals rfl

theorem unary_isSome (hdepth : 4 * c.remaining tokens + 1 < depth) : ((toDepth tokens depth).unary c).isSome := by
  obtain ⟨depth, rfl⟩ := Nat.exists_eq_add_one_of_ne_zero (Nat.ne_zero_of_lt hdepth)
  rw [toDepth, calling_unary, unary]
  split
  · next hat =>
      have hlt : (c.advance tokens).inward.remaining tokens < c.remaining tokens :=
        Cursor.remaining_advance_lt (Cursor.atEnd_of_isAt hat)
      have hreturns := (hlater (c.advance tokens).inward hlt).unary depth (by omega)
      dsimp only
      split
      · rfl
      · obtain ⟨⟨result, after⟩, hresult⟩ := Option.isSome_iff_exists.1 hreturns
        rw [hresult]
        rfl
  · exact primary_isSome hlater (Nat.lt_of_succ_lt_succ hdepth)

theorem conjuncts_isSome (f : Filter) (hdepth : 4 * c.remaining tokens + 2 < depth) :
    ((toDepth tokens depth).conjuncts f c).isSome := by
  obtain ⟨depth, rfl⟩ := Nat.exists_eq_add_one_of_ne_zero (Nat.ne_zero_of_lt hdepth)
  rw [toDepth, calling_conjuncts, conjuncts]
  cases hstart : c.conjunct? tokens with
  | none => rfl
  | some start =>
      have hahead := (Cursor.ahead_of_conjunct? hstart).remaining_le
      have hunary : ((toDepth tokens depth).unary start).isSome :=
        unary_isSome (fun later hlt => hlater later (Nat.lt_of_lt_of_le hlt hahead)) (by omega)
      refine isSome_first hunary fun right after hright => ?_
      have hlt := ((moving tokens depth).unary _ _ hright).remaining_lt
      exact (hlater after (Nat.lt_of_lt_of_le hlt hahead)).conjuncts (.conj f right) depth (by omega)

theorem conjunction_isSome (hdepth : 4 * c.remaining tokens + 2 < depth) :
    ((toDepth tokens depth).conjunction c).isSome := by
  obtain ⟨depth, rfl⟩ := Nat.exists_eq_add_one_of_ne_zero (Nat.ne_zero_of_lt hdepth)
  refine isSome_first (unary_isSome hlater (Nat.lt_of_succ_lt_succ hdepth)) fun left after hleft => ?_
  have hlt := ((moving tokens depth).unary _ _ hleft).remaining_lt
  exact (hlater after hlt).conjuncts left depth (by omega)

theorem alternatives_isSome (f : Filter) (hdepth : 4 * c.remaining tokens + 3 < depth) :
    ((toDepth tokens depth).alternatives f c).isSome := by
  obtain ⟨depth, rfl⟩ := Nat.exists_eq_add_one_of_ne_zero (Nat.ne_zero_of_lt hdepth)
  rw [toDepth, calling_alternatives, alternatives]
  cases hstart : c.alternative? tokens with
  | none => rfl
  | some start =>
      obtain ⟨hahead, htaken⟩ := Cursor.ahead_of_alternative? hstart
      have hlt := hahead.remaining_lt htaken
      refine isSome_first ((hlater start hlt).conjunction depth (by omega)) fun right after hright => ?_
      have hafter := ((moving tokens depth).conjunction _ _ hright).remaining_lt
      exact (hlater after (Nat.lt_trans hafter hlt)).alternatives (.disj f right) depth (by omega)

theorem disjunction_isSome (hdepth : 4 * c.remaining tokens + 3 < depth) :
    ((toDepth tokens depth).disjunction c).isSome := by
  obtain ⟨depth, rfl⟩ := Nat.exists_eq_add_one_of_ne_zero (Nat.ne_zero_of_lt hdepth)
  refine isSome_first (conjunction_isSome hlater (Nat.lt_of_succ_lt_succ hdepth)) fun left after hleft => ?_
  have hlt := ((moving tokens depth).conjunction _ _ hleft).remaining_lt
  exact (hlater after hlt).alternatives left depth (by omega)

end

theorem returns (tokens : List Token) (c : Cursor) : Returns tokens c := by
  induction hn : c.remaining tokens using Nat.strongRecOn generalizing c with
  | ind n ih =>
      subst hn
      have hlater : ∀ later : Cursor, later.remaining tokens < c.remaining tokens → Returns tokens later :=
        fun later hlt => ih _ hlt later rfl
      exact ⟨fun _ => disjunction_isSome hlater, fun f _ => alternatives_isSome hlater f,
        fun _ => conjunction_isSome hlater, fun f _ => conjuncts_isSome hlater f, fun _ => unary_isSome hlater,
        fun _ => primary_isSome hlater⟩

structure Readers.Total (inner : Readers) : Prop where
  disjunction : ∀ c, (inner.disjunction c).isSome
  alternatives : ∀ f c, (inner.alternatives f c).isSome
  conjunction : ∀ c, (inner.conjunction c).isSome
  conjuncts : ∀ f c, (inner.conjuncts f c).isSome
  unary : ∀ c, (inner.unary c).isSome
  primary : ∀ c, (inner.primary c).isSome

theorem total_readers (tokens : List Token) : (readers tokens).Total := by
  have hdepth (c : Cursor) : 4 * c.remaining tokens + 3 < 4 * tokens.length + 4 :=
    Nat.add_lt_add_of_le_of_lt (Nat.mul_le_mul_left 4 (Nat.sub_le _ _)) (by decide)
  constructor
  case disjunction => exact fun c => (returns tokens c).disjunction _ (hdepth c)
  case alternatives => exact fun f c => (returns tokens c).alternatives f _ (hdepth c)
  case conjunction => exact fun c => (returns tokens c).conjunction _ (Nat.lt_of_succ_lt (hdepth c))
  case conjuncts => exact fun f c => (returns tokens c).conjuncts f _ (Nat.lt_of_succ_lt (hdepth c))
  case unary => exact fun c => (returns tokens c).unary _ (Nat.lt_of_succ_lt (Nat.lt_of_succ_lt (hdepth c)))
  case primary => exact fun c => (returns tokens c).primary _ (Nat.lt_of_add_right_lt (hdepth c))

structure Readers.Le (inner other : Readers) : Prop where
  disjunction : ∀ c r, inner.disjunction c = some r → other.disjunction c = some r
  alternatives : ∀ left c r, inner.alternatives left c = some r → other.alternatives left c = some r
  conjunction : ∀ c r, inner.conjunction c = some r → other.conjunction c = some r
  conjuncts : ∀ left c r, inner.conjuncts left c = some r → other.conjuncts left c = some r
  unary : ∀ c r, inner.unary c = some r → other.unary c = some r
  primary : ∀ c r, inner.primary c = some r → other.primary c = some r

theorem first_le {first first' : Option Returned} {rest rest' : Filter → Cursor → Option Returned} {r : Returned}
    (hfirst : ∀ r, first = some r → first' = some r)
    (hrest : ∀ f after r, rest f after = some r → rest' f after = some r)
    (h : (do
      let (result, after) ← first
      match result with
      | .ok f => rest f after
      | .error m => some (.error m, after)) = some r) :
    (do
      let (result, after) ← first'
      match result with
      | .ok f => rest' f after
      | .error m => some (.error m, after)) = some r := by
  obtain ⟨⟨result, after⟩, hresult, h⟩ := Option.bind_eq_some_iff.1 h
  refine Option.bind_eq_some_iff.2 ⟨_, hfirst _ hresult, ?_⟩
  cases result with
  | ok f => exact hrest f after r h
  | error m => exact h

theorem bind_le {operand operand' : Option Returned} {k : Returned → Option Returned} {r : Returned}
    (hoperand : ∀ r, operand = some r → operand' = some r) (h : operand.bind k = some r) :
    operand'.bind k = some r := by
  obtain ⟨result, hresult, h⟩ := Option.bind_eq_some_iff.1 h
  exact Option.bind_eq_some_iff.2 ⟨result, hoperand result hresult, h⟩

section

variable {inner other : Readers} (hle : inner.Le other) {left : Filter} {c : Cursor} {r : Returned}

include hle

theorem Readers.Le.alternatives_calling (h : (inner.calling tokens).alternatives left c = some r) :
    (other.calling tokens).alternatives left c = some r := by
  rw [calling_alternatives, Descent.alternatives] at h ⊢
  cases hstart : c.alternative? tokens with
  | none => rwa [hstart] at h
  | some start =>
      rw [hstart] at h
      exact first_le (hle.conjunction start) (fun right => hle.alternatives (.disj left right)) h

theorem Readers.Le.conjuncts_calling (h : (inner.calling tokens).conjuncts left c = some r) :
    (other.calling tokens).conjuncts left c = some r := by
  rw [calling_conjuncts, Descent.conjuncts] at h ⊢
  cases hstart : c.conjunct? tokens with
  | none => rwa [hstart] at h
  | some start =>
      rw [hstart] at h
      exact first_le (hle.unary start) (fun right => hle.conjuncts (.conj left right)) h

theorem Readers.Le.unary_calling (h : (inner.calling tokens).unary c = some r) :
    (other.calling tokens).unary c = some r := by
  rw [calling_unary, Descent.unary] at h ⊢
  by_cases hat : c.isAt tokens (· = .negation)
  · rw [if_pos hat] at h ⊢
    dsimp only at h ⊢
    split
    · next hdeep => rwa [if_pos hdeep] at h
    · next hdeep =>
        rw [if_neg hdeep] at h
        exact bind_le (hle.unary _) h
  · rw [if_neg hat] at h ⊢
    exact hle.primary c r h

theorem Readers.Le.primary_calling (h : (inner.calling tokens).primary c = some r) :
    (other.calling tokens).primary c = some r := by
  rw [calling_primary, Descent.primary] at h ⊢
  cases hpeek : c.peek? tokens with
  | none => rwa [hpeek] at h
  | some t =>
      rw [hpeek] at h
      dsimp only at h ⊢
      cases hkind : t.kind <;> rw [hkind] at h <;> dsimp only at h ⊢
      case leftParen =>
        split
        · next hdeep => rwa [if_pos hdeep] at h
        · next hdeep =>
            rw [if_neg hdeep] at h
            exact bind_le (hle.disjunction _) h
      all_goals exact h

theorem Readers.Le.calling : (inner.calling tokens).Le (other.calling tokens) where
  disjunction c _ h := first_le (hle.conjunction c) hle.alternatives h
  alternatives _ _ _ h := hle.alternatives_calling h
  conjunction c _ h := first_le (hle.unary c) hle.conjuncts h
  conjuncts _ _ _ h := hle.conjuncts_calling h
  unary _ _ h := hle.unary_calling h
  primary _ _ h := hle.primary_calling h

end

theorem toDepth_le (tokens : List Token) (depth : Nat) : (toDepth tokens depth).Le (toDepth tokens (depth + 1)) := by
  induction depth with
  | zero => constructor <;> nofun
  | succ depth ih => exact ih.calling

theorem eq_of_le {called deeper : Option Returned} (hle : ∀ r, called = some r → deeper = some r)
    (hreturns : called.isSome) : deeper = called := by
  obtain ⟨r, hr⟩ := Option.isSome_iff_exists.1 hreturns
  rw [hr]
  exact hle r hr

theorem Readers.Le.eq {inner other : Readers} (hle : inner.Le other) (htotal : inner.Total) : other = inner := by
  ext1
  case disjunction => exact funext fun c => eq_of_le (hle.disjunction c) (htotal.disjunction c)
  case alternatives => exact funext fun f => funext fun c => eq_of_le (hle.alternatives f c) (htotal.alternatives f c)
  case conjunction => exact funext fun c => eq_of_le (hle.conjunction c) (htotal.conjunction c)
  case conjuncts => exact funext fun f => funext fun c => eq_of_le (hle.conjuncts f c) (htotal.conjuncts f c)
  case unary => exact funext fun c => eq_of_le (hle.unary c) (htotal.unary c)
  case primary => exact funext fun c => eq_of_le (hle.primary c) (htotal.primary c)

/-- The depth cannot be seen: the productions are what their own definitions make of them. -/
theorem calling_readers (tokens : List Token) : (readers tokens).calling tokens = readers tokens :=
  (toDepth_le tokens _).eq (total_readers tokens)

end Descent

end Triage.Filter
