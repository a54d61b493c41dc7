import Triage.Proofs.Qualifier.Change
import Triage.Proofs.Qualifier.Names
import Triage.Proofs.Text.Casing
import Triage.Qualifier.Predicate

/-!
Whether a qualifier that can be applied is passed depends on a single change at a time: an issue passes when one of the
changes that ensure it is done. In a snapshot without repetitions, what applying the qualifier sets is such a change.
-/

namespace Triage

namespace Text

theorem occursIn_self (t : Text) : t.occursIn t := occursIn_iff.2 (List.infix_refl t)

theorem mentions_of_sameWord {t content : Text} (h : t.sameWord content) : t.mentions content.lower := by
  rw [mentions, lower_eq_of_sameWord h]
  exact occursIn_self _

end Text

theorem Label.answers_of_sameWord {name content : Text} (h : name.sameWord content) :
    Label.answers name content.lower := by
  rw [Label.answers, Text.lower_eq_of_sameWord h]
  cases hcut : content.lower.cut? ['.'] with
  | none => simp
  | some piece => simp [Label.parts, hcut, Text.occursIn_self]

namespace Predicate

def EnsuredBy (p : Predicate) (c : Change) : Prop := ∀ issue, c.Done issue → p.holds issue

structure Changeable (p : Predicate) : Prop where
  ensured : ∀ issue, p.holds issue → ∃ c : Change, c.Done issue ∧ p.EnsuredBy c
  refutable : ∃ issue, ¬ p.holds issue

theorem Changeable.holds_runAll_iff {p : Predicate} (hp : p.Changeable) {cs : List Change} {issue : Issue} :
    p.holds (Change.runAll cs issue) ↔
      ∃ c, p.EnsuredBy c ∧ (c ∈ Change.lasting cs ∨ c.Done issue ∧ ∀ d ∈ cs, ¬ d.replaces c) := by
  constructor
  · intro h
    obtain ⟨c, hdone, hensures⟩ := hp.ensured _ h
    exact ⟨c, hensures, Change.done_runAll.1 hdone⟩
  · rintro ⟨c, hensures, hc⟩
    exact hensures _ (Change.done_runAll.2 hc)

theorem Changeable.forall_holds_runAll_iff {p : Predicate} (hp : p.Changeable) {cs : List Change} :
    (∀ issue, p.holds (Change.runAll cs issue)) ↔ ∃ c ∈ Change.lasting cs, p.EnsuredBy c := by
  constructor
  · intro h
    obtain ⟨issue, hfails⟩ := hp.refutable
    obtain ⟨c, hensures, hc⟩ := hp.holds_runAll_iff.1 (h issue)
    rcases hc with hlasting | ⟨hdone, -⟩
    · exact ⟨c, hlasting, hensures⟩
    · exact absurd (hensures issue hdone) hfails
  · rintro ⟨c, hlasting, hensures⟩ issue
    exact hp.holds_runAll_iff.2 ⟨c, hensures, .inl hlasting⟩

end Predicate

def Issue.blank (now : Timestamp) (isOpen : Bool) : Issue where
  id := 0
  title := []
  author := []
  isOpen := isOpen
  createdAt := now
  updatedAt := now

theorem find?_eq_some_of_pairwise {α : Type} {p : α → Bool} {l : List α} {a : α}
    (h : l.Pairwise fun x y => ¬ (p x ∧ p y)) (ha : a ∈ l) (hp : p a) : l.find? p = some a := by
  induction l with
  | nil => cases ha
  | cons b l ih =>
      obtain ⟨hb, hl⟩ := List.pairwise_cons.1 h
      rcases List.mem_cons.1 ha with rfl | ha
      · exact List.find?_cons_of_pos hp
      · have hnb : ¬ p b := fun hpb => hb a ha ⟨hpb, hp⟩
        rw [List.find?_cons_of_neg hnb]
        exact ih hl ha

namespace Snapshot

structure Distinct (s : Snapshot) : Prop where
  milestones : s.milestones.Pairwise fun m n => m.id ≠ n.id
  collaborators : s.collaborators.Pairwise fun user other => ¬ user.login.sameWord other.login

theorem Distinct.milestoneById?_of_mem {s : Snapshot} (hs : s.Distinct) {m : Milestone} (hm : m ∈ s.milestones) :
    s.milestoneById? m.id = some m := by
  apply find?_eq_some_of_pairwise (hs.milestones.imp _) hm (beq_self_eq_true m.id)
  rintro x y hne ⟨hx, hy⟩
  exact hne ((beq_iff_eq.1 hx).trans (beq_iff_eq.1 hy).symm)

theorem Distinct.collaborator?_of_mem {s : Snapshot} (hs : s.Distinct) {user : User} (huser : user ∈ s.collaborators) :
    s.collaborator? user.login = some user := by
  apply find?_eq_some_of_pairwise (hs.collaborators.imp _) huser (Text.sameWord_refl user.login)
  rintro x y hne ⟨hx, hy⟩
  exact hne (beq_iff_eq.2 ((beq_iff_eq.1 hx).trans (beq_iff_eq.1 hy).symm))

theorem sameWord_labelNamed (s : Snapshot) (content : Text) : (s.labelNamed content).sameWord content := by
  rw [labelNamed]
  cases hfind : s.labels.find? fun l => l.name.sameWord content with
  | none => exact Text.sameWord_refl content
  | some l =>
      have hsame := List.find?_some hfind
      exact hsame

theorem Distinct.userMentions_loginOf {s : Snapshot} (hs : s.Distinct) (content : Text) :
    s.userMentions (s.loginOf content) content.lower := by
  rw [loginOf, userMentions, Bool.or_eq_true]
  cases hfind : s.collaborators.find? fun user =>
    user.login.sameWord content || user.name.any fun shown => shown.sameWord content with
  | none => exact .inl (Text.mentions_of_sameWord (Text.sameWord_refl content))
  | some user =>
      have hlookup := hs.collaborator?_of_mem (List.mem_of_find?_eq_some hfind)
      rcases Bool.or_eq_true _ _ ▸ List.find?_some hfind with hlogin | hname
      · exact .inl (Text.mentions_of_sameWord hlogin)
      · obtain ⟨shown, hshown, hsame⟩ := (Option.any_eq_true _ _).1 hname
        right
        simp [hlookup, hshown, Text.mentions_of_sameWord hsame]

end Snapshot

namespace Qualifier

open Predicate

theorem holds_milestonePredicate {s : Snapshot} {content : Text} {m : Milestone} {issue : Issue} (hs : s.Distinct)
    (hm : s.milestoneMeant? content = some m) (hissue : issue.milestone = some m.id) :
    (milestonePredicate s content).holds issue := by
  rw [Snapshot.milestoneMeant?] at hm
  rw [milestonePredicate]
  cases hresolve : Milestone.resolve content s.milestones.length (s.currentMilestone.map UInt64.toNat) with
  | resolved index =>
      simp only [hresolve] at hm
      simp [hm, holds, hissue]
  | unresolved => simp [hresolve] at hm
  | notReference =>
      simp only [hresolve, Option.or_eq_some_iff] at hm
      have hfound : m ∈ s.milestones ∧ m.title.mentions content.lower := by
        rcases hm with hsame | ⟨-, hpart⟩
        · have htitle := List.find?_some hsame
          exact ⟨List.mem_of_find?_eq_some hsame, Text.mentions_of_sameWord htitle⟩
        · have hmentions := List.find?_some hpart
          exact ⟨List.mem_of_find?_eq_some hpart, hmentions⟩
      obtain ⟨hmem, hmentions⟩ := hfound
      simp [holds, hissue, hs.milestoneById?_of_mem hmem, hmentions]

def change? (s : Snapshot) (content : Text) : Qualifier → Option Change
  | .label => some (.label (s.labelNamed content))
  | .milestone => (s.milestoneMeant? content).map fun m => .milestone m.id
  | .assignee => some (.assignee (s.loginOf content))
  | .state | .is => (Vocabulary.read? content : Option State).map fun wanted => .state (wanted == .opened)
  | _ => none

theorem apply_eq_runAll (s : Snapshot) (content : Text) (issue : Issue) (q : Qualifier) :
    q.apply s content issue = Change.runAll (q.change? s content).toList issue := by
  cases q with
  | milestone => cases h : s.milestoneMeant? content <;> simp [apply, change?, h, Change.run]
  | state => cases h : (Vocabulary.read? content : Option State) <;> simp [apply, change?, h, Change.run]
  | is => cases h : (Vocabulary.read? content : Option State) <;> simp [apply, change?, h, Change.run]
  | _ => rfl

theorem ensuredBy_label {ctx : Context} {content name : Text} (h : Label.answers name content.lower) :
    (label.predicate ctx content).EnsuredBy (.label name) :=
  fun _ hdone => List.any_eq_true.2 ⟨name, hdone, h⟩

theorem ensuredBy_assignee {ctx : Context} {content login : Text} (h : ctx.userMentions login content.lower) :
    (assignee.predicate ctx content).EnsuredBy (.assignee login) :=
  fun _ hdone => (Option.any_eq_true _ _).2 ⟨login, hdone, h⟩

theorem changeable_label (ctx : Context) (content : Text) : (label.predicate ctx content).Changeable := by
  constructor
  · intro issue h
    obtain ⟨name, hname, hanswers⟩ := List.any_eq_true.1 h
    exact ⟨.label name, hname, ensuredBy_label hanswers⟩
  · exact ⟨.blank ctx.now true, by simp [predicate, holds, Issue.blank]⟩

theorem changeable_assignee (ctx : Context) (content : Text) : (assignee.predicate ctx content).Changeable := by
  constructor
  · intro issue h
    obtain ⟨login, hlogin, hmentions⟩ := (Option.any_eq_true _ _).1 h
    exact ⟨.assignee login, hlogin, ensuredBy_assignee hmentions⟩
  · exact ⟨.blank ctx.now true, by simp [predicate, holds, Issue.blank]⟩

theorem holds_milestonePredicate_congr {s : Snapshot} {content : Text} {issue other : Issue}
    (h : issue.milestone = other.milestone) :
    (milestonePredicate s content).holds issue = (milestonePredicate s content).holds other := by
  rw [milestonePredicate]
  split
  · split <;> simp [holds, h]
  · rfl
  · simp [holds, h]

theorem milestone_of_holds {s : Snapshot} {content : Text} {issue : Issue}
    (h : (milestonePredicate s content).holds issue) : ∃ id, issue.milestone = some id := by
  rw [← Option.isSome_iff_exists]
  rw [milestonePredicate] at h
  split at h
  · split at h
    · rw [holds, beq_iff_eq] at h
      rw [h, Option.isSome_some]
    · cases h
  · cases h
  · cases hid : issue.milestone with
    | none => simp [holds, hid] at h
    | some id => rfl

theorem changeable_milestone (ctx : Context) (content : Text) : (milestone.predicate ctx content).Changeable := by
  constructor
  · intro issue h
    obtain ⟨id, hid⟩ := milestone_of_holds h
    refine ⟨.milestone id, hid, fun other hother => ?_⟩
    exact (holds_milestonePredicate_congr (hother.trans hid.symm)).trans h
  · refine ⟨.blank ctx.now true, fun h => ?_⟩
    obtain ⟨id, hid⟩ := milestone_of_holds h
    cases hid

theorem ensuredBy_state {p : Predicate} {isOpen : Bool} (h : ∀ issue, p.holds issue = (issue.isOpen == isOpen)) :
    p.EnsuredBy (.state isOpen) := by
  intro issue hdone
  rw [h, beq_iff_eq]
  exact hdone

theorem changeable_of_isOpen {p : Predicate} {isOpen : Bool} (h : ∀ issue, p.holds issue = (issue.isOpen == isOpen))
    (now : Timestamp) : p.Changeable := by
  constructor
  · intro issue hholds
    rw [h, beq_iff_eq] at hholds
    exact ⟨.state isOpen, hholds, ensuredBy_state h⟩
  · refine ⟨.blank now !isOpen, ?_⟩
    rw [h, Issue.blank]
    simp

theorem change?_state {ctx : Context} {content : Text} (h : state.canApply content) :
    ∃ isOpen, state.change? ctx.toSnapshot content = some (.state isOpen) ∧
      ∀ issue, (state.predicate ctx content).holds issue = (issue.isOpen == isOpen) := by
  obtain ⟨wanted, hread⟩ := Option.isSome_iff_exists.1 h
  rw [change?, predicate, hread]
  cases wanted with
  | opened => exact ⟨true, rfl, fun issue => (beq_true issue.isOpen).symm⟩
  | closed => exact ⟨false, rfl, fun issue => (beq_false issue.isOpen).symm⟩

theorem change?_is {ctx : Context} {content : Text} (h : is.canApply content) :
    ∃ isOpen, is.change? ctx.toSnapshot content = some (.state isOpen) ∧
      ∀ issue, (is.predicate ctx content).holds issue = (issue.isOpen == isOpen) := by
  cases hread : (Vocabulary.read? content : Option Aspect) with
  | none => simp [canApply, hread] at h
  | some aspect =>
      -- The change reads a state where the test reads an aspect: the word is one for both.
      obtain ⟨word, hword, hsame⟩ := Vocabulary.exists_word_of_read? hread
      have hstate : (Vocabulary.read? content : Option State) = Vocabulary.read? word := Vocabulary.read?_congr hsame
      rw [change?, predicate, hstate, hread]
      cases aspect with
      | opened =>
          obtain rfl := List.mem_singleton.1 hword
          exact ⟨true, rfl, fun issue => (beq_true issue.isOpen).symm⟩
      | closed =>
          obtain rfl := List.mem_singleton.1 hword
          exact ⟨false, rfl, fun issue => (beq_false issue.isOpen).symm⟩
      | _ => simp [canApply, hread] at h

theorem changeable_predicate {ctx : Context} {content : Text} {q : Qualifier} (h : q.canApply content) :
    (q.predicate ctx content).Changeable := by
  cases q with
  | label => exact changeable_label ctx content
  | milestone => exact changeable_milestone ctx content
  | assignee => exact changeable_assignee ctx content
  | state =>
      obtain ⟨isOpen, -, hholds⟩ := change?_state h
      exact changeable_of_isOpen hholds ctx.now
  | is =>
      obtain ⟨isOpen, -, hholds⟩ := change?_is h
      exact changeable_of_isOpen hholds ctx.now
  | _ => cases h

theorem exists_change {ctx : Context} {content : Text} {q : Qualifier} (hctx : ctx.toSnapshot.Distinct)
    (hq : q.canApply content) (hknown : q = .milestone → (ctx.milestoneMeant? content).isSome) :
    ∃ c, q.change? ctx.toSnapshot content = some c ∧ (q.predicate ctx content).EnsuredBy c := by
  cases q with
  | label =>
      have hanswers := Label.answers_of_sameWord (ctx.sameWord_labelNamed content)
      exact ⟨_, rfl, ensuredBy_label hanswers⟩
  | milestone =>
      obtain ⟨m, hm⟩ := Option.isSome_iff_exists.1 (hknown rfl)
      have hchange : milestone.change? ctx.toSnapshot content = some (.milestone m.id) := by
        rw [change?, hm, Option.map_some]
      exact ⟨.milestone m.id, hchange, fun issue hdone => holds_milestonePredicate hctx hm hdone⟩
  | assignee => exact ⟨_, rfl, ensuredBy_assignee (hctx.userMentions_loginOf content)⟩
  | state =>
      obtain ⟨isOpen, hchange, hholds⟩ := change?_state hq
      exact ⟨.state isOpen, hchange, ensuredBy_state hholds⟩
  | is =>
      obtain ⟨isOpen, hchange, hholds⟩ := change?_is hq
      exact ⟨.state isOpen, hchange, ensuredBy_state hholds⟩
  | _ => cases hq

end Qualifier

end Triage
