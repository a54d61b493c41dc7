import Triage.Filter
import Triage.Proofs.Qualifier.Fulfilment

/-!
Applying a filter runs the changes of its terms from left to right, and a later change may take away what an earlier term
needs. The issue satisfies the filter whatever it was before just if every term whose change is lost that way is made up
for by a change that lasts.
-/

namespace Triage.Filter

def change? (s : Snapshot) (t : Text × Text) : Option Change :=
  (Qualifier.ofName? t.1).bind (Qualifier.change? s t.2)

def changes (s : Snapshot) (f : Filter) : List Change := f.terms.filterMap (change? s)

theorem changes_term (s : Snapshot) (name content : Text) :
    changes s (.term name content) = (change? s (name, content)).toList := by
  rw [changes, terms]
  cases h : change? s (name, content) <;> simp [h]

theorem changes_conj (s : Snapshot) (l r : Filter) : changes s (.conj l r) = changes s l ++ changes s r :=
  List.filterMap_append

theorem applyTerm_eq_runAll (s : Snapshot) (name content : Text) (issue : Issue) :
    applyTerm s name content issue = Change.runAll (change? s (name, content)).toList issue := by
  rw [applyTerm, change?]
  cases Qualifier.ofName? name with
  | none => rfl
  | some q => exact q.apply_eq_runAll s content issue

theorem apply_eq_runAll {s : Snapshot} {f : Filter} (h : f.canApply) (issue : Issue) :
    f.apply s issue = .ok (Change.runAll (f.changes s) issue) := by
  induction f generalizing issue with
  | term name content =>
      rw [apply, if_pos h, changes_term, ← applyTerm_eq_runAll]
  | conj l r ihl ihr =>
      obtain ⟨hl, hr⟩ := Bool.and_eq_true_iff.1 h
      rw [apply, if_pos h, changes_conj, Change.runAll_append]
      simp only [ihl hl, ihr hr]
  | _ => cases h

theorem satisfiedBy_iff {ctx : Context} {f : Filter} (h : f.canApply) {issue : Issue} :
    f.satisfiedBy ctx issue ↔ ∀ t ∈ f.terms, (Qualifier.predicateOf ctx t.1 t.2).holds issue := by
  induction f with
  | term name content => simp [satisfiedBy, terms]
  | conj l r ihl ihr =>
      obtain ⟨hl, hr⟩ := Bool.and_eq_true_iff.1 h
      rw [satisfiedBy, Bool.and_eq_true, ihl hl, ihr hr, terms, List.forall_mem_append]
  | _ => cases h

theorem canApply_of_mem_terms {f : Filter} (h : f.canApply) {t : Text × Text} (ht : t ∈ f.terms) :
    ∃ q, Qualifier.ofName? t.1 = some q ∧ q.canApply t.2 := by
  induction f with
  | term name content =>
      obtain rfl := List.mem_singleton.1 ht
      exact (Option.any_eq_true _ _).1 h
  | conj l r ihl ihr =>
      obtain ⟨hl, hr⟩ := Bool.and_eq_true_iff.1 h
      exact (List.mem_append.1 ht).elim (ihl hl) (ihr hr)
  | _ => cases h

theorem satisfiedBy_apply_iff {ctx : Context} {f : Filter} (hf : f.canApply) :
    (∀ issue, ∃ changed, f.apply ctx.toSnapshot issue = .ok changed ∧ f.satisfiedBy ctx changed) ↔
      ∀ t ∈ f.terms, ∃ c ∈ Change.lasting (f.changes ctx.toSnapshot),
        (Qualifier.predicateOf ctx t.1 t.2).EnsuredBy c := by
  have hchangeable : ∀ t ∈ f.terms, (Qualifier.predicateOf ctx t.1 t.2).Changeable := by
    intro t ht
    obtain ⟨q, hq, happly⟩ := canApply_of_mem_terms hf ht
    rw [Qualifier.predicateOf, hq]
    exact Qualifier.changeable_predicate happly
  constructor
  · intro h t ht
    rw [← (hchangeable t ht).forall_holds_runAll_iff]
    intro issue
    obtain ⟨changed, happly, hsatisfied⟩ := h issue
    rw [apply_eq_runAll hf] at happly
    obtain rfl := Except.ok.inj happly
    exact (satisfiedBy_iff hf).1 hsatisfied t ht
  · intro h issue
    refine ⟨_, apply_eq_runAll hf issue, (satisfiedBy_iff hf).2 fun t ht => ?_⟩
    exact (hchangeable t ht).forall_holds_runAll_iff.2 (h t ht) issue

theorem exists_change {ctx : Context} {f : Filter} (hctx : ctx.toSnapshot.Distinct) (hf : f.canApply)
    (hknown : ∀ content ∈ contentsOf .milestone f.terms, (ctx.milestoneMeant? content).isSome) {t : Text × Text}
    (ht : t ∈ f.terms) :
    ∃ c, change? ctx.toSnapshot t = some c ∧ (Qualifier.predicateOf ctx t.1 t.2).EnsuredBy c := by
  obtain ⟨q, hq, happly⟩ := canApply_of_mem_terms hf ht
  rw [change?, Qualifier.predicateOf, hq]
  apply Qualifier.exists_change hctx happly
  rintro rfl
  exact hknown t.2 (List.mem_map.2 ⟨t, List.mem_filter.2 ⟨ht, beq_iff_eq.2 hq⟩, rfl⟩)

theorem apply_satisfies_iff {ctx : Context} {f : Filter} (hctx : ctx.toSnapshot.Distinct) (hf : f.canApply)
    (hknown : ∀ content ∈ contentsOf .milestone f.terms, (ctx.milestoneMeant? content).isSome) :
    (∀ issue, ∃ changed, f.apply ctx.toSnapshot issue = .ok changed ∧ f.satisfiedBy ctx changed) ↔
      ∀ t ∈ f.terms, ∀ c ∈ change? ctx.toSnapshot t, c ∉ Change.lasting (f.changes ctx.toSnapshot) →
        ∃ kept ∈ Change.lasting (f.changes ctx.toSnapshot), (Qualifier.predicateOf ctx t.1 t.2).EnsuredBy kept := by
  rw [satisfiedBy_apply_iff hf]
  constructor
  · intro h t ht c hc hlost
    exact h t ht
  · intro h t ht
    -- The term's own change ensures it, and so there is nothing to make up for where that one lasts.
    obtain ⟨c, hc, hensured⟩ := exists_change hctx hf hknown ht
    by_cases hlasting : c ∈ Change.lasting (f.changes ctx.toSnapshot)
    · exact ⟨c, hlasting, hensured⟩
    · exact h t ht c hc hlasting

def twoReleases : Context where
  milestones := [⟨1, "v0.0".toList, none, true⟩, ⟨2, "v0.1".toList, none, true⟩]
  now := .midnight ⟨2024, 1, 1, by decide⟩

theorem distinct_twoReleases : twoReleases.toSnapshot.Distinct := by
  constructor <;> simp [twoReleases]

def planned (milestone : Option UInt64) : Issue := { Issue.blank twoReleases.now true with milestone := milestone }

def narrowing : Filter := .conj (.term "milestone".toList "v0".toList) (.term "milestone".toList "v0.1".toList)

def widening : Filter := .conj (.term "milestone".toList "v0.1".toList) (.term "milestone".toList "v0".toList)

theorem apply_satisfies_narrowing :
    twoReleases.toSnapshot.Distinct ∧ narrowing.canApply ∧
      (∀ content ∈ contentsOf .milestone narrowing.terms, (twoReleases.milestoneMeant? content).isSome) ∧
      ∀ issue, ∃ changed,
        narrowing.apply twoReleases.toSnapshot issue = .ok changed ∧ narrowing.satisfiedBy twoReleases changed := by
  have hf : narrowing.canApply := by decide
  have hknown : ∀ content ∈ contentsOf .milestone narrowing.terms, (twoReleases.milestoneMeant? content).isSome := by
    decide
  refine ⟨distinct_twoReleases, hf, hknown, (apply_satisfies_iff distinct_twoReleases hf hknown).2 ?_⟩
  intro t ht c hc hlost
  -- Both terms are met by an issue planned for the second release, and only its milestone decides.
  refine ⟨.milestone 2, by decide, fun issue hdone => ?_⟩
  have hissue : issue.milestone = (planned (some 2)).milestone := hdone
  have hplanned : narrowing.satisfiedBy twoReleases (planned (some 2)) := by decide
  have hpasses := (satisfiedBy_iff hf).1 hplanned t ht
  have hnames : ∀ t ∈ narrowing.terms, t.1 = "milestone".toList := by decide
  rw [hnames t ht] at hpasses ⊢
  exact (Qualifier.holds_milestonePredicate_congr hissue).trans hpasses

theorem apply_undoes_widening :
    twoReleases.toSnapshot.Distinct ∧ widening.canApply ∧
      (∀ content ∈ contentsOf .milestone widening.terms, (twoReleases.milestoneMeant? content).isSome) ∧
      widening.satisfiedBy twoReleases (planned (some 2)) ∧
      widening.apply twoReleases.toSnapshot (planned none) = .ok (planned (some 1)) ∧
      ¬ widening.satisfiedBy twoReleases (planned (some 1)) := by
  have hf : widening.canApply := by decide
  refine ⟨distinct_twoReleases, hf, by decide, by decide, ?_, by decide⟩
  have hchanges : widening.changes twoReleases.toSnapshot = [.milestone 2, .milestone 1] := by decide
  rw [apply_eq_runAll hf, hchanges]
  rfl

end Triage.Filter
