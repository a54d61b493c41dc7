import Triage.Proofs.Filter.Rearrangement

/-!
What the first key of a filter says about the list that it selects: no issue stands after one that it comes before by
this key. Keys for merged issues go by the flag alone, where the test for merged issues asks for a pull request too, and
a descending key for milestones turns round the place of the issues without one as well.
-/

namespace Triage

def AllBefore (p q : Issue → Prop) (issues : List Issue) : Prop := issues.Pairwise fun a b => ¬ (q a ∧ p b)

theorem AllBefore.imp {p q p' q' : Issue → Prop} {issues : List Issue} (h : AllBefore p q issues)
    (hp : ∀ issue, p' issue → p issue) (hq : ∀ issue, q' issue → q issue) : AllBefore p' q' issues :=
  List.Pairwise.imp (fun hne hboth => hne ⟨hq _ hboth.1, hp _ hboth.2⟩) h

theorem AllBefore.cover {p q p' q' r s : Issue → Prop} {issues : List Issue} (h : AllBefore p q issues)
    (h' : AllBefore p' q' issues) (hcover : ∀ a b, s a → r b → q a ∧ p b ∨ q' a ∧ p' b) : AllBefore r s issues := by
  refine (List.Pairwise.and h h').imp ?_
  rintro a b ⟨hne, hne'⟩ ⟨hs, hr⟩
  exact (hcover a b hs hr).elim hne hne'

theorem allBefore_reverse {p q : Issue → Prop} {issues : List Issue} :
    AllBefore p q issues.reverse ↔ AllBefore q p issues := by
  simp only [AllBefore, List.pairwise_reverse, and_comm]

theorem allBefore_of_forall {p : Issue → Prop} {issues : List Issue}
    (h : (∀ issue ∈ issues, p issue) ∨ ∀ issue ∈ issues, ¬ p issue) : AllBefore p (¬ p ·) issues := by
  apply List.pairwise_of_forall_mem_list
  rintro a ha b hb ⟨hpa, hpb⟩
  rcases h with hall | hnone
  · exact hpa (hall a ha)
  · exact hnone b hb hpb

theorem AllBefore.swap_iff {p : Issue → Prop} {issues : List Issue} (h : AllBefore (¬ p ·) p issues) :
    AllBefore p (¬ p ·) issues ↔ (∀ issue ∈ issues, p issue) ∨ ∀ issue ∈ issues, ¬ p issue := by
  refine ⟨fun hswap => ?_, allBefore_of_forall⟩
  cases issues with
  | nil => exact .inl (by simp)
  | cons a issues =>
      have hlater := (List.pairwise_cons.1 h).1
      have hlater' := (List.pairwise_cons.1 hswap).1
      by_cases ha : p a
      · exact .inl (List.forall_mem_cons.2 ⟨ha, fun b hb => Classical.not_not.1 fun hpb => hlater b hb ⟨ha, hpb⟩⟩)
      · exact .inr (List.forall_mem_cons.2 ⟨ha, fun b hb hpb => hlater' b hb ⟨ha, hpb⟩⟩)

theorem SortKey.not_less_of_isLE {s : Snapshot} {key : SortKey} {keys : List SortKey} {a b : Issue}
    (h : (compareAll s (key :: keys) a b).isLE) : ¬ key.Less s b a := by
  intro hless
  have hlt : compareAll s (key :: keys) b a = .lt := (compareAll_eq_lt s (key :: keys)).2 (.inl hless)
  rw [Std.OrientedCmp.gt_of_lt hlt] at h
  cases h

namespace Filter

theorem select_sublist {f : Filter} {keys : List SortKey} (h : f.SortsBy keys) (ctx : Context) :
    (f.select ctx).Sublist ((ctx.issues.filter fun issue => f.satisfiedBy ctx issue).mergeSort fun a b =>
      (SortKey.compareAll ctx.toSnapshot keys a b).isLE) := by
  rw [select_eq ctx f h, ordered_map_fst]
  cases f.limit? with
  | none => exact List.Sublist.refl _
  | some n => exact List.take_sublist n _

theorem mem_issues_of_mem_select {f : Filter} {ctx : Context} {issue : Issue} (h : issue ∈ f.select ctx) :
    issue ∈ ctx.issues := by
  have hmem := (select_sublist (sortsBy_iff.2 rfl) ctx).subset h
  exact (List.mem_filter.1 (List.mem_mergeSort.1 hmem)).1

theorem pairwise_select {f : Filter} {key : SortKey} {keys : List SortKey} (h : f.SortsBy (key :: keys))
    (ctx : Context) : (f.select ctx).Pairwise fun a b => ¬ key.Less ctx.toSnapshot b a := by
  have hsorted := List.pairwise_mergeSort (isLE_trans (SortKey.compareAll ctx.toSnapshot (key :: keys)))
    (isLE_total (SortKey.compareAll ctx.toSnapshot (key :: keys)))
    (ctx.issues.filter fun issue => f.satisfiedBy ctx issue)
  exact (hsorted.sublist (select_sublist h ctx)).imp SortKey.not_less_of_isLE

theorem select_eq_of_ranked {f : Filter} {keys : List SortKey} {ctx : Context} {issues : List Issue}
    (h : f.SortsBy keys) (hall : f.limit? = none) (hids : ctx.issues.Pairwise (·.id < ·.id))
    (hperm : (ctx.issues.filter fun issue => f.satisfiedBy ctx issue).Perm issues)
    (hranked : issues.Pairwise fun a b => (SortKey.compareAll ctx.toSnapshot keys a b).isLE ∧
      ((SortKey.compareAll ctx.toSnapshot keys b a).isLE → a.id < b.id)) : f.select ctx = issues := by
  rw [select_eq ctx f h, hall]
  refine (ordered_map_fst ctx f keys).trans ?_
  exact mergeSort_eq_of_stable (isLE_trans _) (isLE_total _) (fun _ _ => UInt64.lt_asymm) (hids.filter _) hperm hranked

section Merged

def PassesMerged (ctx : Context) (issue : Issue) : Prop :=
  (Filter.term "is".toList "merged".toList).satisfiedBy ctx issue

/-- Whether an issue has the flag of merged pull requests and is none. -/
def Stray (issue : Issue) : Prop := issue.isMerged ∧ ¬ issue.isPullRequest

theorem passesMerged_iff {ctx : Context} {issue : Issue} :
    PassesMerged ctx issue ↔ issue.isMerged ∧ issue.isPullRequest := by
  have hname : Qualifier.ofName? "is".toList = some .is := by decide
  have haspect : (Vocabulary.read? "merged".toList : Option Aspect) = some .merged := by decide
  simp only [PassesMerged, satisfiedBy, Qualifier.predicateOf, hname, Qualifier.predicate, haspect, Qualifier.testing,
    Predicate.holds, Issue.hasAspect, Bool.and_eq_true, and_comm]

theorem Stray.not_passesMerged {issue : Issue} (h : Stray issue) (ctx : Context) : ¬ PassesMerged ctx issue :=
  fun hpasses => h.2 (passesMerged_iff.1 hpasses).2

theorem stray_of_not_passesMerged {ctx : Context} {issue : Issue} (h : ¬ PassesMerged ctx issue)
    (hflag : issue.isMerged) : Stray issue :=
  ⟨hflag, fun hpull => h (passesMerged_iff.2 ⟨hflag, hpull⟩)⟩

theorem allBefore_passesMerged_iff {ctx : Context} {issues : List Issue}
    (h : AllBefore (·.isMerged) (¬ ·.isMerged) issues) :
    AllBefore (PassesMerged ctx) (¬ PassesMerged ctx ·) issues ↔ AllBefore (PassesMerged ctx) Stray issues := by
  refine ⟨fun hpasses => hpasses.imp (fun _ => id) fun _ hstray => hstray.not_passesMerged ctx, fun hstray => ?_⟩
  apply h.cover hstray
  intro a b ha hb
  by_cases hmerged : a.isMerged
  · exact .inr ⟨stray_of_not_passesMerged ha hmerged, hb⟩
  · exact .inl ⟨hmerged, (passesMerged_iff.1 hb).1⟩

theorem allBefore_not_passesMerged_iff {ctx : Context} {issues : List Issue}
    (h : AllBefore (¬ ·.isMerged) (·.isMerged) issues) :
    AllBefore (¬ PassesMerged ctx ·) (PassesMerged ctx) issues ↔ AllBefore Stray (PassesMerged ctx) issues := by
  rw [← allBefore_reverse, allBefore_passesMerged_iff (allBefore_reverse.2 h), allBefore_reverse]

theorem select_merged {ctx : Context} {f : Filter} {keys : List SortKey} (h : f.SortsBy (⟨.merged, false⟩ :: keys)) :
    AllBefore (·.isMerged) (¬ ·.isMerged) (f.select ctx) :=
  (pairwise_select h ctx).imp fun hless hboth => hless ⟨hboth.2, hboth.1⟩

theorem select_unmerged {ctx : Context} {f : Filter} {keys : List SortKey}
    (h : f.SortsBy (⟨.unmerged, false⟩ :: keys)) : AllBefore (¬ ·.isMerged) (·.isMerged) (f.select ctx) :=
  (pairwise_select h ctx).imp fun hless hboth => hless ⟨hboth.2, hboth.1⟩

theorem merged_key_by_flag (ctx : Context) (f : Filter) (keys : List SortKey) :
    (f.SortsBy (⟨.merged, false⟩ :: keys) →
      AllBefore (·.isMerged) (¬ ·.isMerged) (f.select ctx) ∧
      (AllBefore (PassesMerged ctx) (¬ PassesMerged ctx ·) (f.select ctx) ↔
        AllBefore (PassesMerged ctx) Stray (f.select ctx))) ∧
    (f.SortsBy (⟨.unmerged, false⟩ :: keys) →
      AllBefore (¬ ·.isMerged) (·.isMerged) (f.select ctx) ∧
      (AllBefore (¬ PassesMerged ctx ·) (PassesMerged ctx) (f.select ctx) ↔
        AllBefore Stray (PassesMerged ctx) (f.select ctx))) ∧
    ((∀ issue ∈ ctx.issues, ¬ Stray issue) →
      AllBefore (PassesMerged ctx) Stray (f.select ctx) ∧ AllBefore Stray (PassesMerged ctx) (f.select ctx)) := by
  refine ⟨fun h => ⟨select_merged h, allBefore_passesMerged_iff (select_merged h)⟩,
    fun h => ⟨select_unmerged h, allBefore_not_passesMerged_iff (select_unmerged h)⟩, fun hnone => ?_⟩
  have hselected : ∀ issue ∈ f.select ctx, ¬ Stray issue := fun issue h => hnone issue (mem_issues_of_mem_select h)
  constructor
  · exact List.pairwise_of_forall_mem_list fun a ha _ _ hboth => hselected a ha hboth.1
  · exact List.pairwise_of_forall_mem_list fun _ _ b hb hboth => hselected b hb hboth.2

def sorting (keys : String) : Filter := .term "sort".toList keys.toList

def flagged : Issue := { numbered 2 with isMerged := true, milestone := some 4 }

def pull : Issue := { numbered 3 with isMerged := true, isPullRequest := true, milestone := some 5 }

def board : Context where
  issues := [numbered 1, flagged, pull]
  milestones := [⟨4, "v1".toList, none, true⟩]
  now := .midnight ⟨2024, 3, 2, by decide⟩

theorem ids_board : board.issues.Pairwise (·.id < ·.id) := by decide

theorem merged_key_by_flag_board :
    (sorting "merged,-id").SortsBy [⟨.merged, false⟩, ⟨.id, true⟩] ∧
    (sorting "merged,-id").select board = [pull, flagged, numbered 1] ∧
    AllBefore (PassesMerged board) (¬ PassesMerged board ·) ((sorting "merged,-id").select board) ∧
    (sorting "unmerged").SortsBy [⟨.unmerged, false⟩] ∧
    (sorting "unmerged").select board = [numbered 1, flagged, pull] ∧
    AllBefore (¬ PassesMerged board ·) (PassesMerged board) ((sorting "unmerged").select board) := by
  have hmerged : (sorting "merged,-id").SortsBy [⟨.merged, false⟩, ⟨.id, true⟩] := sortsBy_iff.2 (by decide)
  have hunmerged : (sorting "unmerged").SortsBy [⟨.unmerged, false⟩] := sortsBy_iff.2 (by decide)
  have hfirst : (sorting "merged,-id").select board = [pull, flagged, numbered 1] :=
    select_eq_of_ranked hmerged (by decide) ids_board (by decide) (by decide)
  have hlast : (sorting "unmerged").select board = [numbered 1, flagged, pull] :=
    select_eq_of_ranked hunmerged (by decide) ids_board (by decide) (by decide)
  refine ⟨hmerged, hfirst, ?_, hunmerged, hlast, ?_⟩
  · rw [((merged_key_by_flag board _ _).1 hmerged).2, hfirst]
    simp [AllBefore, passesMerged_iff, Stray, pull, flagged, numbered]
  · rw [((merged_key_by_flag board _ _).2.1 hunmerged).2, hlast]
    simp [AllBefore, passesMerged_iff, Stray, pull, flagged, numbered]

theorem stray_before_merged :
    ¬ ∀ (ctx : Context) (f : Filter) (keys : List SortKey), f.SortsBy (⟨.merged, false⟩ :: keys) →
      AllBefore (PassesMerged ctx) (¬ PassesMerged ctx ·) (f.select ctx) := by
  intro h
  have hsorts : (sorting "merged").SortsBy [⟨.merged, false⟩] := sortsBy_iff.2 (by decide)
  have hselect : (sorting "merged").select board = [flagged, pull, numbered 1] :=
    select_eq_of_ranked hsorts (by decide) ids_board (by decide) (by decide)
  have hbefore := h board _ _ hsorts
  rw [hselect] at hbefore
  simp [AllBefore, passesMerged_iff, pull, flagged, numbered] at hbefore

end Merged

section Milestone

def Planned (s : Snapshot) (issue : Issue) : Prop := ∃ m ∈ s.milestones, issue.milestone = some m.id

theorem isSome_position_iff {s : Snapshot} {issue : Issue} :
    (issue.milestone.bind s.milestonePosition?).isSome ↔ Planned s issue := by
  rw [Planned]
  cases issue.milestone with
  | none => simp
  | some id =>
      simp only [Option.bind_some, Snapshot.milestonePosition?, List.findIdx?_isSome, List.any_eq_true, beq_iff_eq,
        Option.some.injEq, @eq_comm _ id]

theorem less_milestone {s : Snapshot} {a b : Issue} (ha : Planned s a) (hb : ¬ Planned s b) :
    SortField.milestone.Less s a b := by
  rw [← isSome_position_iff] at ha hb
  obtain ⟨i, hi⟩ := Option.isSome_iff_exists.1 ha
  rw [SortField.Less, hi, Option.not_isSome_iff_eq_none.1 hb]
  trivial

theorem milestone_key_both_ways (ctx : Context) (f : Filter) (keys : List SortKey) :
    (f.SortsBy (⟨.milestone, false⟩ :: keys) →
      AllBefore (Planned ctx.toSnapshot) (¬ Planned ctx.toSnapshot ·) (f.select ctx)) ∧
    (f.SortsBy (⟨.milestone, true⟩ :: keys) →
      AllBefore (¬ Planned ctx.toSnapshot ·) (Planned ctx.toSnapshot) (f.select ctx) ∧
      (AllBefore (Planned ctx.toSnapshot) (¬ Planned ctx.toSnapshot ·) (f.select ctx) ↔
        (∀ issue ∈ f.select ctx, Planned ctx.toSnapshot issue) ∨
          ∀ issue ∈ f.select ctx, ¬ Planned ctx.toSnapshot issue)) := by
  constructor
  · intro h
    exact (pairwise_select h ctx).imp fun hless hboth => hless (less_milestone hboth.2 hboth.1)
  · intro h
    have hturned : AllBefore (¬ Planned ctx.toSnapshot ·) (Planned ctx.toSnapshot) (f.select ctx) :=
      (pairwise_select h ctx).imp fun hless hboth => hless (less_milestone hboth.1 hboth.2)
    exact ⟨hturned, hturned.swap_iff⟩

def scheduled : Filter := .conj (sorting "-milestone") (.term "id".toList "2".toList)

theorem milestone_key_both_ways_board :
    (sorting "milestone,id").SortsBy [⟨.milestone, false⟩, ⟨.id, false⟩] ∧
    (sorting "milestone,id").select board = [flagged, numbered 1, pull] ∧
    AllBefore (Planned board.toSnapshot) (¬ Planned board.toSnapshot ·) ((sorting "milestone,id").select board) ∧
    scheduled.SortsBy [⟨.milestone, true⟩] ∧ scheduled.select board = [flagged] ∧
    AllBefore (Planned board.toSnapshot) (¬ Planned board.toSnapshot ·) (scheduled.select board) := by
  have hsorts : (sorting "milestone,id").SortsBy [⟨.milestone, false⟩, ⟨.id, false⟩] := sortsBy_iff.2 (by decide)
  have hturned : scheduled.SortsBy [⟨.milestone, true⟩] := sortsBy_iff.2 (by decide)
  have hboard : (sorting "milestone,id").select board = [flagged, numbered 1, pull] :=
    select_eq_of_ranked hsorts (by decide) ids_board (by decide) (by decide)
  have hselect : scheduled.select board = [flagged] :=
    select_eq_of_ranked hturned (by decide) ids_board (by decide) (by decide)
  refine ⟨hsorts, hboard, (milestone_key_both_ways board _ _).1 hsorts, hturned, hselect, ?_⟩
  rw [((milestone_key_both_ways board _ _).2 hturned).2, hselect]
  exact .inl (by simp [Planned, board, flagged])

theorem unplanned_before_planned :
    ¬ ∀ (ctx : Context) (f : Filter) (descending : Bool) (keys : List SortKey),
      f.SortsBy (⟨.milestone, descending⟩ :: keys) →
        AllBefore (Planned ctx.toSnapshot) (¬ Planned ctx.toSnapshot ·) (f.select ctx) := by
  intro h
  have hsorts : (sorting "-milestone").SortsBy [⟨.milestone, true⟩] := sortsBy_iff.2 (by decide)
  have hselect : (sorting "-milestone").select board = [numbered 1, pull, flagged] :=
    select_eq_of_ranked hsorts (by decide) ids_board (by decide) (by decide)
  have hbefore := h board _ _ _ hsorts
  rw [hselect] at hbefore
  simp [AllBefore, Planned, board, pull, flagged, numbered] at hbefore

end Milestone

end Filter

end Triage
