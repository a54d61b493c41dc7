import Triage.Proofs.Filter.Descent.Agreement
import Triage.Proofs.Filter.Recognition
import Triage.Proofs.Filter.Traversal

/-!
The work on a text is bounded, however long the text is. A filter is no larger than the tokens that it is derived from: a
path through it takes a token for each negation and one for a neighbour of each operand. And the descent that reads those
tokens always returns, with every level closed that it opened and without passing the end of the text.
-/

namespace Triage.Filter

open Grammar

def leaves : Filter → Nat
  | .everything | .term _ _ => 1
  | .conj l r | .disj l r => l.leaves + r.leaves
  | .neg f => f.leaves

def isNegation : Filter → Bool
  | .neg _ => true
  | _ => false

/-- No more leaves than a number, no longer path, and no path with more negations than another one. -/
structure Within (f : Filter) (size negations : Nat) : Prop where
  leaves : f.leaves ≤ size
  length : ∀ path ∈ f.paths, path.length ≤ size
  negations : ∀ path ∈ f.paths, path.countP isNegation ≤ negations

theorem Within.mono {f : Filter} {size size' negations negations' : Nat} (h : f.Within size negations)
    (hsize : size ≤ size') (hnegations : negations ≤ negations') : f.Within size' negations' :=
  ⟨h.leaves.trans hsize, fun path hp => (h.length path hp).trans hsize,
    fun path hp => (h.negations path hp).trans hnegations⟩

section

variable {l r whole : Filter} {a b m n : Nat}

theorem Within.join (hl : l.Within a m) (hr : r.Within b n) (ha : 0 < a) (hb : 0 < b)
    (hleaves : whole.leaves = l.leaves + r.leaves) (hpaths : whole.paths = (l.paths ++ r.paths).map (whole :: ·))
    (hwhole : whole.isNegation = false) : whole.Within (a + b) (max m n) := by
  refine ⟨by rw [hleaves]; exact Nat.add_le_add hl.leaves hr.leaves, fun path hp => ?_, fun path hp => ?_⟩
  all_goals
    rw [hpaths] at hp
    obtain ⟨below, hbelow, rfl⟩ := List.mem_map.1 hp
  · rw [List.length_cons]
    rcases List.mem_append.1 hbelow with h | h
    · have := hl.length below h
      omega
    · have := hr.length below h
      omega
  · rw [List.countP_cons_of_neg (by rw [hwhole]; exact Bool.false_ne_true)]
    rcases List.mem_append.1 hbelow with h | h
    · exact (hl.negations below h).trans (Nat.le_max_left _ _)
    · exact (hr.negations below h).trans (Nat.le_max_right _ _)

end

theorem within_term (name content : Text) : (term name content).Within 1 0 := by
  refine ⟨Nat.le_refl 1, fun path hp => ?_, fun path hp => ?_⟩ <;>
    rw [List.mem_singleton.1 hp] <;> exact Nat.le_refl _

theorem Within.neg {f : Filter} {size negations : Nat} (h : f.Within size negations) :
    f.neg.Within (size + 1) (negations + 1) := by
  refine ⟨h.leaves.trans (Nat.le_succ _), fun path hp => ?_, fun path hp => ?_⟩
  all_goals obtain ⟨below, hbelow, rfl⟩ := List.mem_map.1 hp
  · exact Nat.succ_le_succ (h.length below hbelow)
  · rw [List.countP_cons_of_pos rfl]
    exact Nat.succ_le_succ (h.negations below hbelow)

theorem within_of_derives {c : Category} {ts : List Token} {f : Filter} {n : Nat} (h : Derives c ts f n) :
    f.Within ts.length n := by
  -- Each operand has a token, which pays for the step that a path takes to the operand beside it.
  induction h with
  | conjunction _ ih => exact ih
  | or hl _ hr ihl ihr =>
      refine (ihl.join ihr (List.length_pos_iff.2 hl.ne_nil) (List.length_pos_iff.2 hr.ne_nil) rfl rfl rfl).mono
        ?_ le_rfl
      rw [List.length_append, List.length_cons]
      omega
  | unary _ ih => exact ih
  | and hl _ hr ihl ihr =>
      refine (ihl.join ihr (List.length_pos_iff.2 hl.ne_nil) (List.length_pos_iff.2 hr.ne_nil) rfl rfl rfl).mono
        ?_ le_rfl
      rw [List.length_append, List.length_cons]
      omega
  | adjacent hl hr ihl ihr =>
      rw [List.length_append]
      exact ihl.join ihr (List.length_pos_iff.2 hl.ne_nil) (List.length_pos_iff.2 hr.ne_nil) rfl rfl rfl
  | primary _ ih => exact ih
  | not _ _ ih => exact ih.neg
  | group _ _ _ ih =>
      refine ih.mono ?_ (Nat.le_succ _)
      rw [List.length_cons, List.length_append]
      omega
  | qualifier => exact (within_term _ _).mono (Nat.le_add_left 1 2) le_rfl
  | keyword => exact within_term _ _

theorem within_of_accepts {ts : List Token} {f : Filter} (h : Accepts ts f) : f.Within maxTokens maxDepth := by
  rcases h with ⟨-, rfl⟩ | ⟨hlength, n, hderives, hn⟩
  · refine ⟨by decide, fun path hp => ?_, fun path hp => ?_⟩ <;> rw [List.mem_singleton.1 hp] <;> decide
  · exact (within_of_derives hderives).mono hlength hn

theorem within_compile (source : Text) : (compile source).filter.Within maxTokens maxDepth := by
  by_cases h : ∃ f, Accepts (Token.scan source) f
  · obtain ⟨f, hf⟩ := h
    rw [(parsed_of_accepts hf).1]
    exact within_of_accepts hf
  · obtain ⟨rs, m, hc⟩ := compile_of_not_accepts (not_exists.1 h)
    rw [hc]
    exact within_of_accepts (.inl ⟨rfl, rfl⟩)

inductive Production where
  | disjunction
  | conjunction
  | unary
  | primary
  | qualifier
  deriving DecidableEq, Repr

def Production.run (tokens : List Token) (c : Cursor) : Production → Option Returned
  | .disjunction => (Descent.readers tokens).disjunction c
  | .conjunction => (Descent.readers tokens).conjunction c
  | .unary => (Descent.readers tokens).unary c
  | .primary => (Descent.readers tokens).primary c
  | .qualifier => some (Descent.qualifier tokens c)

theorem Production.run_returns (tokens : List Token) (c : Cursor) (p : Production) :
    ∃ r, p.run tokens c = some r ∧ Descent.Moves tokens c r := by
  have htotal := Descent.total_readers tokens
  cases p with
  | disjunction =>
      obtain ⟨r, hr⟩ := Option.isSome_iff_exists.1 (htotal.disjunction c)
      exact ⟨r, hr, Descent.moves_disjunction hr⟩
  | conjunction =>
      obtain ⟨r, hr⟩ := Option.isSome_iff_exists.1 (htotal.conjunction c)
      exact ⟨r, hr, Descent.moves_conjunction hr⟩
  | unary =>
      obtain ⟨r, hr⟩ := Option.isSome_iff_exists.1 (htotal.unary c)
      exact ⟨r, hr, Descent.moves_unary hr⟩
  | primary =>
      obtain ⟨r, hr⟩ := Option.isSome_iff_exists.1 (htotal.primary c)
      exact ⟨r, hr, Descent.moves_primary hr⟩
  | qualifier => exact ⟨_, rfl, Descent.moves_qualifier c⟩

theorem finish_at_end (source : Text) :
    (Token.all source)[(Token.scan source).length]? = some (Token.finish source) := by
  rw [Token.all, List.getElem?_concat_length]

theorem Cursor.Ahead.within_text {source : Text} {c after : Cursor} (h : c.Ahead (Token.all source) after)
    (hc : c.taken ≤ (Token.scan source).length) : after.taken ≤ (Token.scan source).length :=
  h.inside _ (by rw [finish_at_end]; rfl) hc

theorem compile_bounded (source : Text) :
    (compile source).filter.Within 1024 64 ∧
    descend source = some (read source) ∧
    (Token.all source)[(Token.scan source).length]? = some (Token.finish source) ∧
    (∀ c : Cursor, c.taken ≤ (Token.scan source).length →
      (c.advance (Token.all source)).taken ≤ (Token.scan source).length) ∧
    ∀ (p : Production) (c : Cursor), ∃ result after, p.run (Token.all source) c = some (result, after) ∧
      after.depth = c.depth ∧
      (c.taken ≤ (Token.scan source).length → after.taken ≤ (Token.scan source).length) ∧
      (∀ f, result = .ok f → c.taken < after.taken) := by
  refine ⟨within_compile source, descend_eq_read source, finish_at_end source, fun c => c.ahead_advance.within_text,
    fun p c => ?_⟩
  obtain ⟨⟨result, after⟩, hrun, hmoves⟩ := p.run_returns (Token.all source) c
  exact ⟨result, after, hrun, hmoves.ahead.depth, hmoves.ahead.within_text, hmoves.consumes⟩

end Triage.Filter
