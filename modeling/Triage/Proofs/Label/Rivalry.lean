import Triage.Proofs.Label.Exclusivity
import Triage.Proofs.Text.Lowering

/-!
Exclusive groups in any case. A pattern compares groups in lower case, but a label that is applied replaces only those
of its group as it spells the group itself. So an issue keeps one label of each group just if the labels that a pattern
takes for the group of the applied one spell the group as that one does.
-/

namespace Triage

theorem Text.isMark_dot : Casing.IsMark '.' := by
  refine ⟨?_, ?_, ?_⟩ <;> decide

namespace Label

theorem ExclusiveIn.parts_eq {name group : Text} (h : ExclusiveIn name group) :
    ∃ short, parts name = ⟨some group, short, true⟩ := by
  obtain ⟨hgroup, short, rfl⟩ := h
  exact ⟨short, by rw [parts, Text.cut?_append hgroup]⟩

theorem exists_exclusiveIn_iff {name : Text} : (∃ group, ExclusiveIn name group) ↔ '.' ∈ name := by
  constructor
  · rintro ⟨group, -, short, rfl⟩
    exact List.mem_append_right group List.mem_cons_self
  · intro h
    obtain ⟨group, short, hname, hgroup⟩ := List.eq_append_cons_of_mem h
    exact ⟨group, hgroup, short, hname⟩

theorem exists_exclusiveIn_lower_iff {name : Text} :
    (∃ group, ExclusiveIn name.lower group) ↔ ∃ group, ExclusiveIn name group := by
  rw [exists_exclusiveIn_iff, exists_exclusiveIn_iff, Text.mem_lower_iff Text.isMark_dot]

theorem answers_group {name group : Text} (hgroup : '.' ∉ group) :
    answers name (group ++ ['.']) ↔ (parts name.lower).group = some group := by
  have hempty (t : Text) : Text.occursIn [] t := Text.occursIn_iff.2 List.nil_infix
  simp [answers, Text.cut?_append hgroup, hempty]

theorem exclusiveIn_lower_iff {name group : Text} :
    ExclusiveIn name.lower group ↔ (∃ own, ExclusiveIn name own) ∧ '.' ∉ group ∧ answers name (group ++ ['.']) := by
  constructor
  · intro h
    obtain ⟨short, hparts⟩ := h.parts_eq
    exact ⟨exists_exclusiveIn_lower_iff.1 ⟨group, h⟩, h.1, (answers_group h.1).2 (by rw [hparts])⟩
  · rintro ⟨hexclusive, hgroup, hanswers⟩
    obtain ⟨other, hother⟩ := exists_exclusiveIn_lower_iff.2 hexclusive
    obtain ⟨short, hparts⟩ := hother.parts_eq
    rw [answers_group hgroup, hparts] at hanswers
    exact Option.some.inj hanswers ▸ hother

def SharesGroup (a b : Text) : Prop := ∃ group, ExclusiveIn a group ∧ ExclusiveIn b group

theorem sharesGroup_iff_any {a b : Text} :
    SharesGroup a b ↔ (exclusiveGroup? a).any fun group => ExclusiveIn b group := by
  simp [SharesGroup, Option.any_eq_true, exclusiveGroup?_eq_some_iff]

instance (a b : Text) : Decidable (SharesGroup a b) := decidable_of_iff _ sharesGroup_iff_any.symm

theorem sharesGroup_iff {a b group : Text} (h : ExclusiveIn b group) : SharesGroup a b ↔ ExclusiveIn a group := by
  constructor
  · rintro ⟨other, ha, hb⟩
    exact h.unique hb ▸ ha
  · exact fun ha => ⟨group, ha, h⟩

theorem not_sharesGroup_lower {a b : Text} (h : ∀ group, ¬ ExclusiveIn b group) : ¬ SharesGroup a.lower b.lower := by
  rintro ⟨group, -, hb⟩
  obtain ⟨own, hown⟩ := exists_exclusiveIn_lower_iff.1 ⟨group, hb⟩
  exact h own hown

theorem countP_le_one_iff {names : List Text} :
    (∀ group, names.countP (fun name => ExclusiveIn name.lower group) ≤ 1) ↔
      names.Pairwise fun a b => ¬ SharesGroup a.lower b.lower := by
  induction names with
  | nil => simp
  | cons a names ih =>
      simp only [List.pairwise_cons, ← ih, List.countP_cons, decide_eq_true_eq]
      constructor
      · intro h
        refine ⟨?_, fun group => Nat.le_trans (Nat.le_add_right ..) (h group)⟩
        rintro b hb ⟨group, hagroup, hbgroup⟩
        have hcount := h group
        have hpos : 0 < names.countP fun name => ExclusiveIn name.lower group :=
          List.countP_pos_iff.2 ⟨b, hb, decide_eq_true hbgroup⟩
        rw [if_pos hagroup] at hcount
        omega
      · rintro ⟨halone, hrest⟩ group
        by_cases ha : ExclusiveIn a.lower group
        · have hnone : names.countP (fun name => ExclusiveIn name.lower group) = 0 :=
            List.countP_eq_zero.2 fun b hb hbgroup => halone b hb ⟨group, ha, of_decide_eq_true hbgroup⟩
          simp [hnone, ha]
        · rw [if_neg ha]
          exact hrest group

end Label

namespace Issue

open Label

def SingleInGroups (issue : Issue) : Prop :=
  ∀ group, issue.labels.countP (fun name => ExclusiveIn name.lower group) ≤ 1

instance (issue : Issue) : Decidable issue.SingleInGroups := decidable_of_iff _ countP_le_one_iff.symm

theorem singleInGroups_addLabel_of_exclusive {issue : Issue} (h : issue.SingleInGroups) {name group : Text}
    (hgroup : ExclusiveIn name group) :
    (issue.addLabel name).SingleInGroups ↔
      ∀ other ∈ issue.labels, SharesGroup other.lower name.lower → SharesGroup other name := by
  rw [SingleInGroups, countP_le_one_iff] at h ⊢
  have hkept := h.sublist (List.filter_sublist (p := fun other => ¬ ExclusiveIn other group))
  simp only [labels_addLabel_of_exclusive hgroup, List.pairwise_append, hkept, List.pairwise_singleton, true_and,
    List.mem_singleton, forall_eq, List.mem_filter, decide_eq_true_eq, and_imp, sharesGroup_iff hgroup]
  refine forall_congr' fun other => imp_congr_right fun _ => ?_
  exact not_imp_not

theorem SingleInGroups.addLabel_of_free {issue : Issue} (h : issue.SingleInGroups) {name : Text}
    (hfree : ∀ group, ¬ ExclusiveIn name group) : (issue.addLabel name).SingleInGroups := by
  rw [SingleInGroups, countP_le_one_iff] at h ⊢
  rw [labels_addLabel_of_free hfree]
  split
  · exact h
  · refine List.pairwise_append.2 ⟨h, List.pairwise_singleton _ _, fun a _ b hb => ?_⟩
    rw [List.mem_singleton.1 hb]
    exact not_sharesGroup_lower hfree

end Issue

namespace Qualifier

open Label

theorem singleInGroups_apply_label {issue : Issue} (h : issue.SingleInGroups) (s : Snapshot) (content : Text) :
    (∀ name group, ExclusiveIn name.lower group ↔
      (∃ own, ExclusiveIn name own) ∧ '.' ∉ group ∧ answers name (group ++ ['.'])) ∧
    ((label.apply s content issue).SingleInGroups ↔
      ∀ other ∈ issue.labels,
        SharesGroup other.lower (s.labelNamed content).lower → SharesGroup other (s.labelNamed content)) := by
  refine ⟨fun name group => exclusiveIn_lower_iff, ?_⟩
  by_cases hgroup : ∃ group, ExclusiveIn (s.labelNamed content) group
  · obtain ⟨group, hgroup⟩ := hgroup
    exact Issue.singleInGroups_addLabel_of_exclusive h hgroup
  · have hfree := not_exists.1 hgroup
    exact iff_of_true (h.addLabel_of_free hfree) fun _ _ hshares => absurd hshares (not_sharesGroup_lower hfree)

def filed : Issue :=
  { Issue.blank (.midnight ⟨2024, 2, 28, by decide⟩) true with labels := ["Type.bug".toList] }

def capitalised : Snapshot where
  labels := [⟨"Type.feature".toList⟩]

theorem singleInGroups_apply_label_respelt :
    filed.SingleInGroups ∧ (label.apply capitalised "type.feature".toList filed).SingleInGroups := by
  have hfiled : filed.SingleInGroups := by decide
  refine ⟨hfiled, (singleInGroups_apply_label hfiled capitalised _).2.2 fun other hother _ => ?_⟩
  obtain rfl := List.mem_singleton.1 hother
  decide

theorem apply_label_keeps_rival :
    filed.SingleInGroups ∧ ¬ (label.apply {} "type.feature".toList filed).SingleInGroups := by
  decide

end Qualifier

end Triage
