import Triage.Proofs.Filter.Application
import Triage.Proofs.Text.Cutting

namespace Triage

namespace Label

/-- Whether a label is written `group.name`. The group holds no dot, and so the first dot ends it. -/
def ExclusiveIn (name group : Text) : Prop := '.' ∉ group ∧ ∃ short, name = group ++ '.' :: short

theorem exclusiveGroup?_eq_some_iff {name group : Text} :
    exclusiveGroup? name = some group ↔ ExclusiveIn name group := by
  have hcut : exclusiveGroup? name = (name.cut? ['.']).map Prod.fst := by
    rw [exclusiveGroup?, parts]
    cases name.cut? ['.'] with
    | some pieces => rfl
    | none => cases name.cut? ['-'] <;> rfl
  rw [hcut, ExclusiveIn, Option.map_eq_some_iff]
  constructor
  · rintro ⟨⟨before, short⟩, h, rfl⟩
    exact ⟨Text.not_mem_of_cut? h, short, by simpa using Text.eq_append_of_cut? h⟩
  · rintro ⟨hdot, short, rfl⟩
    exact ⟨(group, short), Text.cut?_append hdot, rfl⟩

theorem exclusiveGroup?_eq_none_iff {name : Text} :
    exclusiveGroup? name = none ↔ ∀ group, ¬ ExclusiveIn name group := by
  simp only [Option.eq_none_iff_forall_ne_some, ne_eq, exclusiveGroup?_eq_some_iff]

instance (name group : Text) : Decidable (ExclusiveIn name group) := decidable_of_iff _ exclusiveGroup?_eq_some_iff

theorem ExclusiveIn.unique {name group other : Text} (h : ExclusiveIn name group) (h' : ExclusiveIn name other) :
    group = other := by
  rw [← exclusiveGroup?_eq_some_iff] at h h'
  exact Option.some.inj (h.symm.trans h')

end Label

namespace Issue

open Label

structure WellLabelled (issue : Issue) : Prop where
  nodup : issue.labels.Nodup
  exclusive : ∀ group, ∀ a ∈ issue.labels, ∀ b ∈ issue.labels, ExclusiveIn a group → ExclusiveIn b group → a = b

theorem wellLabelled_iff {issue : Issue} :
    issue.WellLabelled ↔ issue.labels.Nodup ∧ ∀ a ∈ issue.labels, ∀ b ∈ issue.labels,
      (exclusiveGroup? a).isSome → exclusiveGroup? a = exclusiveGroup? b → a = b := by
  constructor
  · rintro ⟨hnodup, hexclusive⟩
    refine ⟨hnodup, fun a ha b hb hsome hsame => ?_⟩
    obtain ⟨group, hgroup⟩ := Option.isSome_iff_exists.1 hsome
    have hb' : exclusiveGroup? b = some group := hsame ▸ hgroup
    exact hexclusive group a ha b hb (exclusiveGroup?_eq_some_iff.1 hgroup) (exclusiveGroup?_eq_some_iff.1 hb')
  · rintro ⟨hnodup, hexclusive⟩
    refine ⟨hnodup, fun group a ha b hb hagroup hbgroup => ?_⟩
    rw [← exclusiveGroup?_eq_some_iff] at hagroup hbgroup
    exact hexclusive a ha b hb (Option.isSome_iff_exists.2 ⟨group, hagroup⟩) (hagroup.trans hbgroup.symm)

instance (issue : Issue) : Decidable issue.WellLabelled := decidable_of_iff _ wellLabelled_iff.symm

theorem WellLabelled.congr {issue other : Issue} (h : issue.WellLabelled) (hlabels : other.labels = issue.labels) :
    other.WellLabelled := by
  obtain ⟨hnodup, hexclusive⟩ := h
  rw [← hlabels] at hnodup hexclusive
  exact ⟨hnodup, hexclusive⟩

theorem labels_addLabel_of_exclusive {issue : Issue} {name group : Text} (h : ExclusiveIn name group) :
    (issue.addLabel name).labels = (issue.labels.filter fun other => ¬ ExclusiveIn other group) ++ [name] := by
  have hkept : (issue.labels.filter fun other => exclusiveGroup? other != some group) =
      issue.labels.filter fun other => ¬ ExclusiveIn other group := by
    apply List.filter_congr
    intro other _
    rw [Bool.eq_iff_iff, bne_iff_ne, decide_eq_true_eq, ne_eq, exclusiveGroup?_eq_some_iff]
  have hname : name ∉ issue.labels.filter fun other => ¬ ExclusiveIn other group := by simp [h]
  simp only [addLabel, exclusiveGroup?_eq_some_iff.2 h, hkept]
  rw [if_neg (by rwa [List.contains_iff_mem])]

theorem labels_addLabel_of_free {issue : Issue} {name : Text} (h : ∀ group, ¬ ExclusiveIn name group) :
    (issue.addLabel name).labels = if name ∈ issue.labels then issue.labels else issue.labels ++ [name] := by
  simp [addLabel, exclusiveGroup?_eq_none_iff.2 h]

theorem WellLabelled.append {issue other : Issue} {name : Text} (h : issue.WellLabelled)
    (hlabels : other.labels = issue.labels ++ [name]) (hname : name ∉ issue.labels)
    (halone : ∀ group, ExclusiveIn name group → ∀ a ∈ issue.labels, ¬ ExclusiveIn a group) : other.WellLabelled := by
  constructor
  case nodup =>
    rw [hlabels]
    refine List.nodup_append.2 ⟨h.nodup, List.nodup_cons.2 ⟨List.not_mem_nil, .nil⟩, fun a ha b hb => ?_⟩
    rw [List.mem_singleton.1 hb]
    exact fun heq => hname (heq ▸ ha)
  case exclusive =>
    rw [hlabels]
    intro group a ha b hb hagroup hbgroup
    rcases List.mem_append.1 ha with ha | ha <;> rcases List.mem_append.1 hb with hb | hb
    · exact h.exclusive group a ha b hb hagroup hbgroup
    · rw [List.mem_singleton.1 hb] at hbgroup
      exact absurd hagroup (halone group hbgroup a ha)
    · rw [List.mem_singleton.1 ha] at hagroup
      exact absurd hbgroup (halone group hagroup b hb)
    · rw [List.mem_singleton.1 ha, List.mem_singleton.1 hb]

theorem WellLabelled.filter {issue : Issue} (h : issue.WellLabelled) (p : Text → Bool) :
    { issue with labels := issue.labels.filter p }.WellLabelled where
  nodup := h.nodup.filter p
  exclusive group a ha b hb := h.exclusive group a (List.mem_filter.1 ha).1 b (List.mem_filter.1 hb).1

theorem WellLabelled.addLabel {issue : Issue} (h : issue.WellLabelled) (name : Text) :
    (issue.addLabel name).WellLabelled := by
  by_cases hgroup : ∃ group, ExclusiveIn name group
  · obtain ⟨group, hgroup⟩ := hgroup
    refine (h.filter fun other => ¬ ExclusiveIn other group).append (labels_addLabel_of_exclusive hgroup) ?_ ?_
    · simp [hgroup]
    · intro other hother a ha
      obtain rfl := hgroup.unique hother
      simpa using (List.mem_filter.1 ha).2
  · have hlabels : (issue.addLabel name).labels = if name ∈ issue.labels then issue.labels else issue.labels ++ [name] :=
      labels_addLabel_of_free (not_exists.1 hgroup)
    split at hlabels
    · exact h.congr hlabels
    · next hname => exact h.append hlabels hname fun group hother => absurd ⟨group, hother⟩ hgroup

theorem WellLabelled.run {issue : Issue} (h : issue.WellLabelled) (c : Change) : (c.run issue).WellLabelled := by
  cases c with
  | label name => exact h.addLabel name
  | milestone | assignee | state => exact h.congr rfl

theorem WellLabelled.runAll {issue : Issue} (h : issue.WellLabelled) (cs : List Change) :
    (Change.runAll cs issue).WellLabelled := by
  induction cs generalizing issue with
  | nil => exact h
  | cons c cs ih => exact ih (h.run c)

end Issue

inductive Edit where
  | filter (s : Snapshot) (f : Filter)
  | qualifier (s : Snapshot) (q : Qualifier) (content : Text)
  deriving DecidableEq, Repr

namespace Edit

open Label

def Allowed : Edit → Prop
  | .filter _ f => f.canApply
  | .qualifier _ _ _ => True

def run (issue : Issue) : Edit → Except Refusal Issue
  | .filter s f => f.apply s issue
  | .qualifier s q content => .ok (q.apply s content issue)

def trail (issue : Issue) : List Edit → Except Refusal (List Issue)
  | [] => .ok []
  | e :: es =>
    match e.run issue with
    | .ok changed => (trail changed es).map (changed :: ·)
    | .error refusal => .error refusal

theorem run_of_allowed {e : Edit} (h : e.Allowed) (issue : Issue) :
    ∃ cs, e.run issue = .ok (Change.runAll cs issue) := by
  cases e with
  | filter s f => exact ⟨_, Filter.apply_eq_runAll h issue⟩
  | qualifier s q content => exact ⟨_, congrArg Except.ok (q.apply_eq_runAll s content issue)⟩

theorem trail_of_allowed {edits : List Edit} {issue : Issue} (h : issue.WellLabelled) (hedits : ∀ e ∈ edits, e.Allowed) :
    ∃ states, trail issue edits = .ok states ∧ states.length = edits.length ∧ ∀ state ∈ states, state.WellLabelled := by
  induction edits generalizing issue with
  | nil => exact ⟨[], rfl, rfl, by simp⟩
  | cons e edits ih =>
      obtain ⟨he, hrest⟩ := List.forall_mem_cons.1 hedits
      obtain ⟨cs, hrun⟩ := run_of_allowed he issue
      have hchanged := h.runAll cs
      obtain ⟨states, htrail, hlength, hstates⟩ := ih hchanged hrest
      refine ⟨Change.runAll cs issue :: states, by simp [trail, hrun, htrail, Except.map], by simp [hlength], ?_⟩
      exact List.forall_mem_cons.2 ⟨hchanged, hstates⟩

theorem apply_label {name : Text} (h : Qualifier.ofName? name = some .label) (s : Snapshot) (content : Text)
    (issue : Issue) : (Filter.term name content).apply s issue = .ok (issue.addLabel (s.labelNamed content)) := by
  have happly : (Filter.term name content).canApply := by simp [Filter.canApply, h, Qualifier.canApply]
  rw [Filter.apply, if_pos happly, Filter.applyTerm, h]
  rfl

theorem labels_stay_exclusive :
    (∀ (issue : Issue) (edits : List Edit), issue.WellLabelled → (∀ e ∈ edits, e.Allowed) →
      ∃ states, trail issue edits = .ok states ∧ states.length = edits.length ∧
        ∀ state ∈ states, state.WellLabelled) ∧
    ∀ (issue : Issue) (s : Snapshot) (name content group : Text), Qualifier.ofName? name = some .label →
      ExclusiveIn (s.labelNamed content) group →
      ∃ changed, (Filter.term name content).apply s issue = .ok changed ∧
        changed = Qualifier.label.apply s content issue ∧
        changed.labels.filter (fun other => ExclusiveIn other group) = [s.labelNamed content] ∧
        changed.labels.filter (fun other => ¬ ExclusiveIn other group) =
          issue.labels.filter fun other => ¬ ExclusiveIn other group := by
  refine ⟨fun issue edits => trail_of_allowed, fun issue s name content group hname hgroup => ?_⟩
  refine ⟨_, apply_label hname s content issue, rfl, ?_, ?_⟩
  · rw [Issue.labels_addLabel_of_exclusive hgroup]
    simp [hgroup]
  · rw [Issue.labels_addLabel_of_exclusive hgroup]
    simp [hgroup]

def typed : Snapshot where
  labels := [⟨"type.feature".toList⟩]

def tagged : Issue :=
  { Issue.blank (.midnight ⟨2024, 2, 29, by decide⟩) true with
    labels := ["type.bug".toList, "type-high".toList, "os.x".toList, "urgent".toList] }

def retagging : List Edit :=
  [.qualifier typed .label "TYPE.FEATURE".toList,
    .filter {} (.conj (.term "label".toList "type.a.b".toList) (.term "labels".toList "os.".toList))]

theorem labels_stay_exclusive_retagging :
    tagged.WellLabelled ∧ (∀ e ∈ retagging, e.Allowed) ∧
      (∃ states, trail tagged retagging = .ok states ∧ states.length = 2 ∧ ∀ state ∈ states, state.WellLabelled) ∧
      Qualifier.ofName? "LABELS".toList = some .label ∧
      ExclusiveIn (typed.labelNamed "Type.Feature".toList) "type".toList ∧
      ∃ changed, (Filter.term "LABELS".toList "Type.Feature".toList).apply typed tagged = .ok changed ∧
        changed.labels.filter (fun other => ExclusiveIn other "type".toList) = ["type.feature".toList] ∧
        changed.labels.filter (fun other => ¬ ExclusiveIn other "type".toList) =
          ["type-high".toList, "os.x".toList, "urgent".toList] := by
  have htagged : tagged.WellLabelled := by decide
  have hallowed : ∀ e ∈ retagging, e.Allowed := by simp [retagging, Allowed]; decide
  have hname : Qualifier.ofName? "LABELS".toList = some .label := by decide
  have hgroup : ExclusiveIn (typed.labelNamed "Type.Feature".toList) "type".toList := by decide
  obtain ⟨changed, happly, -, honly, hothers⟩ := labels_stay_exclusive.2 tagged typed _ _ _ hname hgroup
  refine ⟨htagged, hallowed, labels_stay_exclusive.1 tagged retagging htagged hallowed, hname, hgroup, ?_⟩
  exact ⟨changed, happly, honly.trans (by decide), hothers.trans (by decide)⟩

end Edit

end Triage
