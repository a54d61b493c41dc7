import Triage.Qualifier.Application

/-!
What applying a qualifier sets on an issue. When one change is made after another, those last that no later change
replaces, and what the issue had before stays where none replaces it.
-/

namespace Triage

inductive Change where
  | label (name : Text)
  | milestone (id : UInt64)
  | assignee (login : Text)
  | state (isOpen : Bool)
  deriving DecidableEq, Repr

namespace Change

def run : Change → Issue → Issue
  | .label name, issue => issue.addLabel name
  | .milestone id, issue => { issue with milestone := some id }
  | .assignee login, issue => { issue with assignee := some login }
  | .state isOpen, issue => { issue with isOpen := isOpen }

def runAll (cs : List Change) (issue : Issue) : Issue := cs.foldl (fun changed c => c.run changed) issue

@[simp] theorem runAll_nil (issue : Issue) : runAll [] issue = issue := rfl

@[simp] theorem runAll_cons (c : Change) (cs : List Change) (issue : Issue) :
    runAll (c :: cs) issue = runAll cs (c.run issue) := rfl

theorem runAll_append (cs ds : List Change) (issue : Issue) :
    runAll (cs ++ ds) issue = runAll ds (runAll cs issue) := by
  simp [runAll]

def Done (issue : Issue) : Change → Prop
  | .label name => name ∈ issue.labels
  | .milestone id => issue.milestone = some id
  | .assignee login => issue.assignee = some login
  | .state isOpen => issue.isOpen = isOpen

/-- Whether a change takes away what an earlier one set. An issue has one milestone, one assignee and one state, and one
label of an exclusive group. -/
def replaces : Change → Change → Bool
  | .label later, .label earlier =>
    later != earlier && (Label.exclusiveGroup? later).any fun group => Label.exclusiveGroup? earlier == some group
  | .milestone _, .milestone _ | .assignee _, .assignee _ | .state _, .state _ => true
  | _, _ => false

def lasting : List Change → List Change
  | [] => []
  | c :: cs => if cs.any (·.replaces c) then lasting cs else c :: lasting cs

theorem mem_lasting_cons {c d : Change} {cs : List Change} :
    c ∈ lasting (d :: cs) ↔ c = d ∧ (∀ e ∈ cs, ¬ e.replaces c) ∨ c ∈ lasting cs := by
  rw [lasting]
  split
  · next h =>
      obtain ⟨e, he, hreplaces⟩ := List.any_eq_true.1 h
      constructor
      · exact .inr
      · rintro (⟨rfl, hnone⟩ | hc)
        · exact absurd hreplaces (hnone e he)
        · exact hc
  · next h =>
      have hnone : ∀ e ∈ cs, ¬ e.replaces d := fun e he hreplaces => h (List.any_eq_true.2 ⟨e, he, hreplaces⟩)
      rw [List.mem_cons]
      constructor
      · rintro (rfl | hc)
        · exact .inl ⟨rfl, hnone⟩
        · exact .inr hc
      · rintro (⟨rfl, -⟩ | hc)
        · exact .inl rfl
        · exact .inr hc

theorem mem_addLabel {issue : Issue} {name other : Text} :
    other ∈ (issue.addLabel name).labels ↔
      other = name ∨ other ∈ issue.labels ∧ ¬ (label name).replaces (label other) := by
  have hinsert : ∀ kept : List Text,
      other ∈ (if kept.contains name then kept else kept ++ [name]) ↔ other = name ∨ other ∈ kept := by
    intro kept
    split
    · next h =>
        rw [List.contains_iff_mem] at h
        exact ⟨.inr, fun hother => hother.elim (fun heq => heq ▸ h) id⟩
    · simp [or_comm]
  rw [Issue.addLabel, hinsert]
  by_cases hname : other = name
  · simp [hname]
  · cases hgroup : Label.exclusiveGroup? name <;> simp [hgroup, hname, replaces, Ne.symm hname]

theorem done_run {issue : Issue} {c d : Change} :
    c.Done (d.run issue) ↔ c = d ∨ c.Done issue ∧ ¬ d.replaces c := by
  cases d with
  | label name =>
      cases c with
      | label other => simpa [Done, run] using mem_addLabel
      | _ => simp [Done, run, replaces, Issue.addLabel]
  | _ => cases c <;> simp [Done, run, replaces, eq_comm]

theorem done_runAll {issue : Issue} {c : Change} {cs : List Change} :
    c.Done (runAll cs issue) ↔ c ∈ lasting cs ∨ c.Done issue ∧ ∀ d ∈ cs, ¬ d.replaces c := by
  -- What the first change sets counts as done beforehand for the others.
  induction cs generalizing issue with
  | nil => simp [lasting]
  | cons d cs ih =>
      rw [runAll_cons, ih, done_run, mem_lasting_cons, List.forall_mem_cons]
      constructor
      · rintro (hc | ⟨rfl | ⟨hdone, hd⟩, hnone⟩)
        · exact .inl (.inr hc)
        · exact .inl (.inl ⟨rfl, hnone⟩)
        · exact .inr ⟨hdone, hd, hnone⟩
      · rintro ((⟨rfl, hnone⟩ | hc) | ⟨hdone, hd, hnone⟩)
        · exact .inr ⟨.inl rfl, hnone⟩
        · exact .inl hc
        · exact .inr ⟨.inr ⟨hdone, hd⟩, hnone⟩

end Change

end Triage
