import Triage.Proofs.Filter.Traversal

/-!
Applying a filter in place, term after term on one issue, with every part asked first whether it can be applied. Where
the whole filter cannot be applied it is refused before the issue changes, and where it can be no part of it is refused.
-/

namespace Triage.Filter

/-- The changes to an issue that is held in a state, which keeps what was changed before a refusal. -/
def applyIn (s : Snapshot) (f : Filter) : EStateM Refusal Issue Unit :=
  if f.canApply then
    match f with
    | .term name content => modify (applyTerm s name content)
    | .conj l r => do
      l.applyIn s
      r.applyIn s
    | _ => pure ()
  else throw ⟨f⟩

theorem applyIn_term {name content : Text} (h : (term name content).canApply) (s : Snapshot) (issue : Issue) :
    (term name content).applyIn s issue = .ok () (applyTerm s name content issue) := by
  rw [applyIn, if_pos h]
  rfl

theorem applyIn_conj {l r : Filter} (h : (conj l r).canApply) (s : Snapshot) (issue : Issue) :
    (conj l r).applyIn s issue =
      match l.applyIn s issue with
      | .ok () changed => r.applyIn s changed
      | .error refusal left => .error refusal left := by
  rw [applyIn, if_pos h]
  change EStateM.bind (l.applyIn s) (fun _ => r.applyIn s) issue = _
  rw [EStateM.bind]
  cases l.applyIn s issue <;> rfl

theorem applyIn_of_not_canApply {f : Filter} (h : ¬ f.canApply) (s : Snapshot) (issue : Issue) :
    f.applyIn s issue = .error ⟨f⟩ issue := by
  rw [applyIn.eq_def, if_neg h]
  rfl

theorem apply_eq_applyIn (s : Snapshot) (f : Filter) (issue : Issue) :
    f.apply s issue =
      match f.applyIn s issue with
      | .ok () changed => .ok changed
      | .error refusal _ => .error refusal := by
  by_cases h : f.canApply
  · induction f generalizing issue with
    | term name content =>
        rw [apply, if_pos h, applyIn_term h]
    | conj l r ihl ihr =>
        obtain ⟨hl, hr⟩ := Bool.and_eq_true_iff.1 h
        rw [apply, if_pos h, applyIn_conj h]
        simp only [ihl _ hl]
        cases l.applyIn s issue with
        | ok _ changed => exact ihr changed hr
        | error refusal left => rfl
    | _ => cases h
  · rw [applyIn_of_not_canApply h, apply.eq_def, if_neg h]

def step? (t : Text × Text) : Option (Qualifier × Text) := (Qualifier.ofName? t.1).map fun q => (q, t.2)

def applySteps (s : Snapshot) (steps : List (Qualifier × Text)) (issue : Issue) : Issue :=
  steps.foldl (fun changed step => step.1.apply s step.2 changed) issue

theorem exists_steps {f : Filter} (h : f.canApply) :
    ∃ steps, f.terms.map step? = steps.map some ∧
      ∀ s issue, f.applyIn s issue = .ok () (applySteps s steps issue) := by
  induction f with
  | term name content =>
      obtain ⟨q, hq, -⟩ := (Option.any_eq_true _ _).1 h
      refine ⟨[(q, content)], by simp [terms, step?, hq], fun s issue => ?_⟩
      rw [applyIn_term h, applyTerm, hq]
      rfl
  | conj l r ihl ihr =>
      obtain ⟨hl, hr⟩ := Bool.and_eq_true_iff.1 h
      obtain ⟨first, hfirst, hl⟩ := ihl hl
      obtain ⟨second, hsecond, hr⟩ := ihr hr
      refine ⟨first ++ second, by simp [terms, hfirst, hsecond], fun s issue => ?_⟩
      simp only [applyIn_conj h, hl, hr, applySteps, List.foldl_append]
  | _ => cases h

theorem topTerms_eq_terms {f : Filter} (h : f.canApply) : f.topTerms = f.terms := by
  induction f with
  | term name content => rfl
  | conj l r ihl ihr =>
      obtain ⟨hl, hr⟩ := Bool.and_eq_true_iff.1 h
      rw [topTerms, terms, ihl hl, ihr hr]
  | _ => cases h

theorem applyIn_all_or_nothing (s : Snapshot) (f : Filter) (issue : Issue) :
    ((∃ refusal left, f.applyIn s issue = .error refusal left) ↔ f.canApply = false) ∧
    (∀ refusal left, f.applyIn s issue = .error refusal left →
      left = issue ∧ refusal = ⟨f⟩ ∧ f.apply s issue = .error ⟨f⟩) ∧
    (f.canApply → collect true [f] = collect false [f] ∧ f.topTerms = f.terms ∧
      ∃ steps, (collect true [f]).map step? = steps.map some ∧
        f.applyIn s issue = .ok () (applySteps s steps issue) ∧ f.apply s issue = .ok (applySteps s steps issue)) := by
  rw [collect_true_singleton, collect_false_singleton, apply_eq_applyIn]
  cases h : f.canApply with
  | false =>
      rw [applyIn_of_not_canApply (by simp [h])]
      refine ⟨⟨fun _ => rfl, fun _ => ⟨_, _, rfl⟩⟩, ?_, nofun⟩
      rintro refusal left heq
      cases heq
      exact ⟨rfl, rfl, rfl⟩
  | true =>
      obtain ⟨steps, hsteps, hrun⟩ := exists_steps h
      have htop := topTerms_eq_terms h
      simp only [hrun]
      refine ⟨by simp, ?_, fun _ => ⟨htop.symm, htop, steps, hsteps, rfl, rfl⟩⟩
      rintro refusal left heq
      cases heq

end Triage.Filter
