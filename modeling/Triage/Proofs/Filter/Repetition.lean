import Triage.Proofs.Filter.Footprint
import Triage.Proofs.Label.Exclusivity

/-!
Applying a filter again. A second time the same changes find everything done, and at most the labels come to stand in
another order: a label of an exclusive group is taken out and goes to the end, behind those that were added after it.
A single term leaves even their order.
-/

namespace Triage

inductive Settles (f : Nat → Nat) : Prop where
  | keeps (h : ∀ n, f n = n)
  | ensures (h : ∀ n, f n = max 1 n)
  | sets (k : Nat) (h : ∀ n, f n = k)

theorem Settles.comp {f g : Nat → Nat} (hg : Settles g) (hf : Settles f) : Settles fun n => g (f n) := by
  cases hg with
  | keeps hg => simpa only [hg] using hf
  | sets k hg => exact .sets k fun n => hg (f n)
  | ensures hg =>
      cases hf with
      | keeps hf => exact .ensures fun n => by rw [hf, hg]
      | ensures hf => exact .ensures fun n => by rw [hf, hg, ← Nat.max_assoc, Nat.max_self]
      | sets k hf => exact .sets (max 1 k) fun n => by rw [hf, hg]

theorem Settles.again {f : Nat → Nat} (h : Settles f) (n : Nat) : f (f n) = f n := by
  cases h with
  | keeps h => rw [h]
  | ensures h => rw [h, h, ← Nat.max_assoc, Nat.max_self]
  | sets k h => rw [h, h]

namespace Issue

open Label

theorem count_addLabel_self (issue : Issue) (name : Text) :
    (issue.addLabel name).labels.count name =
      if (exclusiveGroup? name).isSome then 1 else max 1 (issue.labels.count name) := by
  split
  · next h =>
      obtain ⟨group, hgroup⟩ := Option.isSome_iff_exists.1 h
      rw [exclusiveGroup?_eq_some_iff] at hgroup
      have hkept : (issue.labels.filter fun other => ¬ ExclusiveIn other group).count name = 0 :=
        List.count_eq_zero.2 (by simp [hgroup])
      rw [labels_addLabel_of_exclusive hgroup, List.count_append, hkept, List.count_singleton_self]
  · next h =>
      rw [Option.not_isSome_iff_eq_none, exclusiveGroup?_eq_none_iff] at h
      rw [labels_addLabel_of_free h]
      split
      · next hname => exact (Nat.max_eq_right (List.count_pos_iff.2 hname)).symm
      · next hname =>
          rw [List.count_append, List.count_singleton_self, List.count_eq_zero.2 hname]
          rfl

theorem count_addLabel_other (issue : Issue) {name other : Text} (h : other ≠ name) :
    (issue.addLabel name).labels.count other =
      if (Change.label name).replaces (.label other) then 0 else issue.labels.count other := by
  have hother : [name].count other = 0 := List.count_eq_zero.2 (by simpa using h)
  by_cases hgroup : ∃ group, ExclusiveIn name group
  · obtain ⟨group, hgroup⟩ := hgroup
    have hreplaces : (Change.label name).replaces (.label other) ↔ ExclusiveIn other group := by
      simp [Change.replaces, exclusiveGroup?_eq_some_iff.2 hgroup, exclusiveGroup?_eq_some_iff, Ne.symm h]
    rw [labels_addLabel_of_exclusive hgroup, List.count_append, hother]
    split
    · next hin =>
        rw [hreplaces] at hin
        exact List.count_eq_zero.2 (by simp [hin])
    · next hin =>
        rw [hreplaces] at hin
        exact List.count_filter (by simpa using hin)
  · rw [not_exists] at hgroup
    have hreplaces : (Change.label name).replaces (.label other) = false := by
      simp [Change.replaces, exclusiveGroup?_eq_none_iff.2 hgroup]
    rw [labels_addLabel_of_free hgroup, hreplaces, if_neg Bool.false_ne_true]
    split
    · rfl
    · rw [List.count_append, hother, Nat.add_zero]

theorem addLabel_addLabel (issue : Issue) (name : Text) :
    (issue.addLabel name).addLabel name = issue.addLabel name := by
  have hlabels : ((issue.addLabel name).addLabel name).labels = (issue.addLabel name).labels := by
    by_cases hgroup : ∃ group, ExclusiveIn name group
    · obtain ⟨group, hgroup⟩ := hgroup
      rw [labels_addLabel_of_exclusive hgroup, labels_addLabel_of_exclusive hgroup]
      simp [hgroup]
    · have hname : name ∈ (issue.addLabel name).labels := Change.mem_addLabel.2 (.inl rfl)
      rw [labels_addLabel_of_free (not_exists.1 hgroup), if_pos hname]
  exact congrArg (fun labels => { issue with labels := labels }) hlabels

end Issue

namespace Change

/-- How many labels of a name an issue has after a change, by how many it had before. -/
def tally (name : Text) : Change → Nat → Nat
  | .label added, n =>
    if added = name then if (Label.exclusiveGroup? name).isSome then 1 else max 1 n
    else if (label added).replaces (label name) then 0
    else n
  | _, n => n

theorem count_run (c : Change) (issue : Issue) (name : Text) :
    (c.run issue).labels.count name = c.tally name (issue.labels.count name) := by
  cases c with
  | label added =>
      rw [tally]
      split
      · next h => exact h ▸ issue.count_addLabel_self added
      · next h => exact issue.count_addLabel_other (Ne.symm h)
  | _ => rfl

theorem settles_tally (name : Text) (c : Change) : Settles (c.tally name) := by
  cases c with
  | label added =>
      by_cases hname : added = name
      · by_cases hexclusive : (Label.exclusiveGroup? name).isSome
        · exact .sets 1 fun n => by simp [tally, hname, hexclusive]
        · exact .ensures fun n => by simp [tally, hname, hexclusive]
      · by_cases hreplaces : (label added).replaces (label name)
        · exact .sets 0 fun n => by simp [tally, hname, hreplaces]
        · exact .keeps fun n => by simp [tally, hname, hreplaces]
  | _ => exact .keeps fun n => rfl

theorem count_runAll (cs : List Change) (name : Text) :
    ∃ f, Settles f ∧ ∀ issue, (runAll cs issue).labels.count name = f (issue.labels.count name) := by
  induction cs with
  | nil => exact ⟨id, .keeps fun n => rfl, fun issue => rfl⟩
  | cons c cs ih =>
      obtain ⟨f, hf, hcount⟩ := ih
      refine ⟨fun n => f (c.tally name n), hf.comp (settles_tally name c), fun issue => ?_⟩
      rw [runAll_cons, hcount, count_run]

theorem labels_runAll_runAll (cs : List Change) (issue : Issue) :
    (runAll cs (runAll cs issue)).labels.Perm (runAll cs issue).labels := by
  -- Where a label stands does not settle, but how often its name occurs does.
  rw [List.perm_iff_count]
  intro name
  obtain ⟨f, hf, hcount⟩ := count_runAll cs name
  rw [hcount, hcount, hf.again]

theorem done_runAll_runAll {c : Change} {cs : List Change} {issue : Issue} :
    c.Done (runAll cs (runAll cs issue)) ↔ c.Done (runAll cs issue) := by
  rw [done_runAll, done_runAll]
  grind

theorem milestone_runAll_runAll (cs : List Change) (issue : Issue) :
    (runAll cs (runAll cs issue)).milestone = (runAll cs issue).milestone :=
  Option.ext fun id => done_runAll_runAll (c := .milestone id)

theorem assignee_runAll_runAll (cs : List Change) (issue : Issue) :
    (runAll cs (runAll cs issue)).assignee = (runAll cs issue).assignee :=
  Option.ext fun login => done_runAll_runAll (c := .assignee login)

theorem isOpen_runAll_runAll (cs : List Change) (issue : Issue) :
    (runAll cs (runAll cs issue)).isOpen = (runAll cs issue).isOpen :=
  Bool.eq_iff_iff.2 (done_runAll_runAll (c := .state true))

theorem run_run (c : Change) (issue : Issue) : c.run (c.run issue) = c.run issue := by
  cases c with
  | label name => exact issue.addLabel_addLabel name
  | _ => rfl

end Change

namespace Filter

theorem apply_again (s : Snapshot) {f : Filter} (hf : f.canApply) (issue : Issue) :
    ∃ once twice, f.apply s issue = .ok once ∧ f.apply s once = .ok twice ∧
      twice = { once with labels := twice.labels } ∧ twice.labels.Perm once.labels ∧
      ∀ name content, f = .term name content → twice = once := by
  obtain ⟨once, honce, -⟩ := exists_apply_touches s hf issue
  obtain ⟨twice, htwice, htouches⟩ := exists_apply_touches s hf once
  refine ⟨once, twice, honce, htwice, ?_⟩
  rw [apply_eq_runAll hf] at honce htwice
  obtain rfl := Except.ok.inj honce
  obtain rfl := Except.ok.inj htwice
  refine ⟨?_, Change.labels_runAll_runAll _ _, ?_⟩
  · have hframe := htouches.frame
    rwa [Change.milestone_runAll_runAll, Change.assignee_runAll_runAll, Change.isOpen_runAll_runAll] at hframe
  · rintro name content rfl
    rw [changes_term]
    cases change? s (name, content) with
    | none => rfl
    | some c => exact c.run_run issue

def flagging : Filter := .conj (.term "label".toList "type.bug".toList) (.term "label".toList "urgent".toList)

/-- The second time, the label of the group goes behind the other. -/
theorem apply_again_flagging :
    flagging.canApply ∧ (Filter.term "label".toList "type.bug".toList).canApply ∧
    (∃ once twice, flagging.apply {} (planned none) = .ok once ∧ flagging.apply {} once = .ok twice ∧
      once.labels = ["type.bug".toList, "urgent".toList] ∧ twice.labels = ["urgent".toList, "type.bug".toList] ∧
      twice = { once with labels := twice.labels } ∧ twice.labels.Perm once.labels) ∧
    ∃ once twice, (Filter.term "label".toList "type.bug".toList).apply {} (planned none) = .ok once ∧
      (Filter.term "label".toList "type.bug".toList).apply {} once = .ok twice ∧ twice = once := by
  have hf : flagging.canApply := by decide
  have hterm : (Filter.term "label".toList "type.bug".toList).canApply := by decide
  obtain ⟨once, twice, honce, htwice, hframe, hperm, -⟩ := apply_again {} hf (planned none)
  obtain ⟨first, second, hfirst, hsecond, -, -, hsame⟩ := apply_again {} hterm (planned none)
  refine ⟨hf, hterm, ⟨once, twice, honce, htwice, ?_, ?_, hframe, hperm⟩, ?_⟩
  · have hrun := apply_eq_runAll hf (s := {}) (planned none)
    obtain rfl := Except.ok.inj (honce.symm.trans hrun)
    decide
  · have hrun := apply_eq_runAll hf (s := {}) (planned none)
    obtain rfl := Except.ok.inj (honce.symm.trans hrun)
    have hagain := apply_eq_runAll hf (s := {}) (Change.runAll (flagging.changes {}) (planned none))
    obtain rfl := Except.ok.inj (htwice.symm.trans hagain)
    decide
  · exact ⟨first, second, hfirst, hsecond, hsame _ _ rfl⟩

end Filter

end Triage
