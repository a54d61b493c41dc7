import Triage.SortKey

namespace Triage

open Std

theorem transCmp_on {α β : Type} (cmp : β → β → Ordering) [TransCmp cmp] (f : α → β) :
    TransCmp fun a b => cmp (f a) (f b) where
  eq_swap := OrientedCmp.eq_swap
  isLE_trans hab hbc := TransCmp.isLE_trans hab hbc

theorem isLE_trans {α : Type} (cmp : α → α → Ordering) [TransCmp cmp] (a b c : α) (hab : (cmp a b).isLE)
    (hbc : (cmp b c).isLE) : (cmp a c).isLE := TransCmp.isLE_trans hab hbc

theorem isLE_total {α : Type} (cmp : α → α → Ordering) [OrientedCmp cmp] (a b : α) :
    (cmp a b).isLE || (cmp b a).isLE := by
  have hswap : cmp b a = (cmp a b).swap := OrientedCmp.eq_swap
  rw [hswap]
  cases cmp a b <;> rfl

namespace Date

def Before (a b : Date) : Prop :=
  a.year < b.year ∨ a.year = b.year ∧ (a.month < b.month ∨ a.month = b.month ∧ a.day < b.day)

instance : TransOrd Date :=
  inferInstanceAs (TransCmp (compareLex (compareOn year) (compareLex (compareOn month) (compareOn day))))

instance : LawfulEqOrd Date where
  eq_of_compare {a b} h := by
    change (compare a.year b.year).then ((compare a.month b.month).then (compare a.day b.day)) = .eq at h
    simp only [Ordering.then_eq_eq, compare_eq_eq_iff_eq] at h
    obtain ⟨hyear, hmonth, hday⟩ := h
    cases a
    cases b
    congr

theorem compare_eq_lt {a b : Date} : compare a b = .lt ↔ a.Before b := by
  change (compare a.year b.year).then ((compare a.month b.month).then (compare a.day b.day)) = .lt ↔ _
  simp only [Ordering.then_eq_lt, Std.compare_eq_lt, compare_eq_eq_iff_eq, Before]

end Date

namespace Timestamp

def Before (a b : Timestamp) : Prop :=
  a.date.Before b.date ∨ a.date = b.date ∧ (a.second < b.second ∨ a.second = b.second ∧ a.nano < b.nano)

instance : TransOrd Timestamp :=
  inferInstanceAs (TransCmp (compareLex (compareOn date) (compareLex (compareOn second) (compareOn nano))))

theorem compare_eq_lt {a b : Timestamp} : compare a b = .lt ↔ a.Before b := by
  change (compare a.date b.date).then ((compare a.second b.second).then (compare a.nano b.nano)) = .lt ↔ _
  simp only [Ordering.then_eq_lt, Date.compare_eq_lt, Std.compare_eq_lt, compare_eq_eq_iff_eq, Before]

end Timestamp

theorem Text.compare_eq_lt {s t : Text} : compare s t = .lt ↔ s < t := by
  change List.compareLex compare s t = .lt ↔ _
  induction s generalizing t with
  | nil => cases t <;> simp [List.compareLex_nil_nil, List.compareLex_nil_cons]
  | cons c s ih =>
      cases t with
      | nil => simp [List.compareLex_cons_nil]
      | cons d t =>
          have hcd : compare c d = .lt ↔ c < d := compareOfLessAndEq_eq_lt
          rw [List.compareLex_cons_cons, Ordering.then_eq_lt, ih, hcd, compare_eq_eq_iff_eq, List.cons_lt_cons_iff]

namespace SortField

def PresentFirst {α : Type} (r : α → α → Prop) : Option α → Option α → Prop
  | some a, some b => r a b
  | some _, none => True
  | none, _ => False

instance {α : Type} [Ord α] [TransOrd α] : TransCmp (absentLast (α := α)) where
  eq_swap {a b} := by
    cases a <;> cases b <;> try rfl
    exact OrientedOrd.eq_swap
  isLE_trans {a b c} hab hbc := by
    cases a <;> cases b <;> cases c <;> try contradiction
    all_goals try rfl
    exact TransOrd.isLE_trans hab hbc

theorem absentLast_eq_lt {α : Type} [Ord α] {r : α → α → Prop} (h : ∀ {a b : α}, Ord.compare a b = .lt ↔ r a b)
    {a b : Option α} : absentLast a b = .lt ↔ PresentFirst r a b := by
  cases a <;> cases b <;> simp [absentLast, PresentFirst, h]

def Less (s : Snapshot) (a b : Issue) : SortField → Prop
  | .id => a.id < b.id
  | .title => a.title.lower < b.title.lower
  | .comments => a.commentCount < b.commentCount
  | .created => a.createdAt.Before b.createdAt
  | .updated => a.updatedAt.Before b.updatedAt
  | .milestone =>
    PresentFirst (· < ·) (a.milestone.bind s.milestonePosition?) (b.milestone.bind s.milestonePosition?)
  | .assignee => PresentFirst (· < ·) (a.assignee.map Text.lower) (b.assignee.map Text.lower)
  | .merged => a.isMerged ∧ ¬ b.isMerged
  | .unmerged => ¬ a.isMerged ∧ b.isMerged

theorem compare_eq_lt (s : Snapshot) (field : SortField) {a b : Issue} :
    field.compare s a b = .lt ↔ field.Less s a b := by
  cases field with
  | id => exact Std.compare_eq_lt
  | title => exact Text.compare_eq_lt
  | comments => exact Std.compare_eq_lt
  | created => exact Timestamp.compare_eq_lt
  | updated => exact Timestamp.compare_eq_lt
  | milestone => exact absentLast_eq_lt Std.compare_eq_lt
  | assignee => exact absentLast_eq_lt Text.compare_eq_lt
  | merged =>
      simp only [compare, Less]
      cases a.isMerged <;> cases b.isMerged <;> decide
  | unmerged =>
      simp only [compare, Less]
      cases a.isMerged <;> cases b.isMerged <;> decide

instance (s : Snapshot) (field : SortField) : TransCmp fun a b => field.compare s a b := by
  cases field with
  | id => exact transCmp_on Ord.compare Issue.id
  | title => exact transCmp_on Ord.compare fun issue : Issue => issue.title.lower
  | comments => exact transCmp_on Ord.compare Issue.commentCount
  | created => exact transCmp_on Ord.compare Issue.createdAt
  | updated => exact transCmp_on Ord.compare Issue.updatedAt
  | milestone => exact transCmp_on absentLast fun issue : Issue => issue.milestone.bind s.milestonePosition?
  | assignee => exact transCmp_on absentLast fun issue : Issue => issue.assignee.map Text.lower
  | merged => exact transCmp_on (fun a b => Ord.compare b a) Issue.isMerged
  | unmerged => exact transCmp_on Ord.compare Issue.isMerged

theorem compare_swap (s : Snapshot) (field : SortField) (a b : Issue) :
    field.compare s b a = (field.compare s a b).swap :=
  (inferInstance : OrientedCmp fun a b => field.compare s a b).eq_swap

end SortField

namespace SortKey

def Less (s : Snapshot) (key : SortKey) (a b : Issue) : Prop :=
  if key.descending then key.field.Less s b a else key.field.Less s a b

def Ties (s : Snapshot) (key : SortKey) (a b : Issue) : Prop := ¬ key.Less s a b ∧ ¬ key.Less s b a

def Precedes (s : Snapshot) : List SortKey → Issue → Issue → Prop
  | [], _, _ => False
  | key :: keys, a, b => key.Less s a b ∨ key.Ties s a b ∧ Precedes s keys a b

instance (s : Snapshot) (key : SortKey) : TransCmp (key.compare s) := by
  obtain ⟨field, descending⟩ := key
  cases descending with
  | false => exact inferInstanceAs (TransCmp fun a b => field.compare s a b)
  | true =>
      have hswap : SortKey.compare s ⟨field, true⟩ = fun a b => field.compare s b a := by
        funext a b
        exact (field.compare_swap s a b).symm
      rw [hswap]
      exact TransCmp.opposite

theorem compare_eq_lt (s : Snapshot) (key : SortKey) {a b : Issue} : key.compare s a b = .lt ↔ key.Less s a b := by
  obtain ⟨field, descending⟩ := key
  cases descending with
  | false => exact field.compare_eq_lt s
  | true =>
      change (field.compare s a b).swap = .lt ↔ field.Less s b a
      rw [← field.compare_swap, field.compare_eq_lt]

theorem compare_eq_eq (s : Snapshot) (key : SortKey) {a b : Issue} : key.compare s a b = .eq ↔ key.Ties s a b := by
  have hgt : key.compare s a b = .gt ↔ key.compare s b a = .lt := OrientedCmp.gt_iff_lt
  rw [Ties, ← compare_eq_lt, ← compare_eq_lt, ← hgt]
  cases key.compare s a b <;> decide

theorem compareAll_cons (s : Snapshot) (key : SortKey) (keys : List SortKey) :
    compareAll s (key :: keys) = compareLex (key.compare s) (compareAll s keys) := rfl

instance (s : Snapshot) (keys : List SortKey) : TransCmp (compareAll s keys) := by
  induction keys with
  | nil => exact transCmp_on Ord.compare fun _ : Issue => 0
  | cons key keys ih =>
      rw [compareAll_cons]
      infer_instance

theorem compareAll_eq_lt (s : Snapshot) (keys : List SortKey) {a b : Issue} :
    compareAll s keys a b = .lt ↔ Precedes s keys a b := by
  induction keys with
  | nil => simp [compareAll, Precedes]
  | cons key keys ih =>
      rw [compareAll_cons, compareLex, Ordering.then_eq_lt, compare_eq_lt, compare_eq_eq, ih, Precedes]

theorem compareAll_eq_eq (s : Snapshot) (keys : List SortKey) {a b : Issue} :
    compareAll s keys a b = .eq ↔ ∀ key ∈ keys, key.Ties s a b := by
  induction keys with
  | nil => simp [compareAll]
  | cons key keys ih =>
      rw [compareAll_cons, compareLex, Ordering.then_eq_eq, compare_eq_eq, ih, List.forall_mem_cons]

theorem compareAll_preorder (s : Snapshot) (keys : List SortKey) :
    (∀ a b, compareAll s keys b a = (compareAll s keys a b).swap) ∧
    (∀ a, compareAll s keys a a = .eq) ∧
    (∀ a b c, (compareAll s keys a b).isLE → (compareAll s keys b c).isLE → (compareAll s keys a c).isLE) ∧
    (∀ a b c, compareAll s keys a b = .eq → compareAll s keys b c = .eq → compareAll s keys a c = .eq) ∧
    (∀ a b, compareAll s keys a b = .lt ↔ Precedes s keys a b) ∧
    (∀ a b, compareAll s keys a b = .eq ↔ ∀ key ∈ keys, key.Ties s a b) := by
  have hlaws : TransCmp (compareAll s keys) := inferInstance
  refine ⟨fun a b => ?_, fun a => ?_, fun a b c hab hbc => ?_, fun a b c hab hbc => ?_, fun a b => ?_, fun a b => ?_⟩
  · exact hlaws.eq_swap
  · exact ReflCmp.compare_self
  · exact hlaws.isLE_trans hab hbc
  · exact TransCmp.eq_trans hab hbc
  · exact compareAll_eq_lt s keys
  · exact compareAll_eq_eq s keys

def assigned (id : UInt64) (assignee : Option String) (milestone : Option UInt64) : Issue where
  id := id
  title := []
  author := []
  assignee := assignee.map String.toList
  milestone := milestone
  createdAt := .midnight ⟨2024, 4, 9, by decide⟩
  updatedAt := .midnight ⟨2024, 4, 9, by decide⟩

def twoMilestones : Snapshot where
  milestones := [⟨5, "v1".toList, none, true⟩, ⟨4, "v2".toList, none, true⟩]

def latestFirst : List SortKey := [⟨.milestone, true⟩, ⟨.assignee, false⟩]

theorem compareAll_preorder_latestFirst :
    compareAll twoMilestones latestFirst (assigned 1 "Ann" none) (assigned 2 "ann" (some 9)) = .eq ∧
    compareAll twoMilestones latestFirst (assigned 2 "ann" (some 9)) (assigned 3 "ANN" none) = .eq ∧
    compareAll twoMilestones latestFirst (assigned 1 "Ann" none) (assigned 3 "ANN" none) = .eq ∧
    compareAll twoMilestones latestFirst (assigned 3 "ANN" none) (assigned 4 none none) = .lt ∧
    compareAll twoMilestones latestFirst (assigned 4 none none) (assigned 5 "Bob" (some 4)) = .lt ∧
    (compareAll twoMilestones latestFirst (assigned 3 "ANN" none) (assigned 5 "Bob" (some 4))).isLE := by
  obtain ⟨-, -, hle, heq, -, -⟩ := compareAll_preorder twoMilestones latestFirst
  have hfirst : compareAll twoMilestones latestFirst (assigned 1 "Ann" none) (assigned 2 "ann" (some 9)) = .eq := by
    decide
  have hsecond : compareAll twoMilestones latestFirst (assigned 2 "ann" (some 9)) (assigned 3 "ANN" none) = .eq := by
    decide
  have hthird : compareAll twoMilestones latestFirst (assigned 3 "ANN" none) (assigned 4 none none) = .lt := by decide
  have hfourth : compareAll twoMilestones latestFirst (assigned 4 none none) (assigned 5 "Bob" (some 4)) = .lt := by
    decide
  exact ⟨hfirst, hsecond, heq _ _ _ hfirst hsecond, hthird, hfourth,
    hle _ _ _ (Ordering.isLE_of_eq_lt hthird) (Ordering.isLE_of_eq_lt hfourth)⟩

end SortKey

end Triage
