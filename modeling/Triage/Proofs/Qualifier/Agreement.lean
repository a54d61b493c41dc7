import Triage.Qualifier.Predicate
import Triage.Qualifier.Validation

/-!
The validation of a term and the test that it makes agree: what is refused tests nothing, but for a malformed reference
to a milestone, which no issue passes, and what is accepted is tested, but for the terms that say how issues are shown
and for a reference to no milestone.
-/

namespace Triage

open Milestone

def Predicate.IsTest (p : Predicate) : Prop := ∃ holds, p = .test holds

theorem Predicate.isTest_iff (p : Predicate) : p.IsTest ↔ p ≠ .all ∧ p ≠ .nothing := by
  cases p with
  | all => simp [IsTest]
  | nothing => simp [IsTest]
  | test holds => exact ⟨fun _ => ⟨nofun, nofun⟩, fun _ => ⟨holds, rfl⟩⟩

/-- The milestone so many places on from the current one. Both places are counted in 64 bits with a sign. -/
def Snapshot.StandsAt (s : Snapshot) (places : Int) (m : Milestone) : Prop :=
  ∃ (current : UInt64) (index : Nat), s.currentMilestone = some current ∧ Text.inWord (Int.ofNat current.toNat) ∧
    Text.inWord (Int.ofNat index) ∧ Int.ofNat index = Int.ofNat current.toNat + places ∧ s.milestones[index]? = some m

def Snapshot.RefersToNone (s : Snapshot) (content : Text) : Prop :=
  ∃ places, Reference.read content = .offset places ∧ ∀ m, ¬ s.StandsAt places m

theorem resolve_offset (s : Snapshot) (places : Int) :
    (∃ index m, (Reference.offset places).resolve s.milestones.length (s.currentMilestone.map UInt64.toNat) =
      .resolved index ∧ s.milestones[index]? = some m ∧ s.StandsAt places m) ∨
    (Reference.offset places).resolve s.milestones.length (s.currentMilestone.map UInt64.toNat) = .unresolved ∧
      ∀ m, ¬ s.StandsAt places m := by
  cases hcurrent : s.currentMilestone with
  | none =>
      refine .inr ⟨rfl, ?_⟩
      rintro m ⟨current, index, h, -⟩
      simp [hcurrent] at h
  | some current =>
      simp only [Option.map_some, Reference.resolve]
      split
      · next h =>
          obtain ⟨hword, hindex, hnonneg, hlt⟩ := h
          have hbound : (Int.ofNat current.toNat + places).toNat < s.milestones.length := by omega
          have hplace : Int.ofNat (Int.ofNat current.toNat + places).toNat = Int.ofNat current.toNat + places :=
            Int.toNat_of_nonneg hnonneg
          exact .inl ⟨_, s.milestones[_], rfl, List.getElem?_eq_getElem hbound, current, _, hcurrent, hword,
            by rwa [hplace], hplace, List.getElem?_eq_getElem hbound⟩
      · next h =>
          refine .inr ⟨rfl, ?_⟩
          rintro m ⟨current', index, hcurrent', hword, hindex, hplace, hm⟩
          obtain rfl : current = current' := Option.some.inj (hcurrent.symm.trans hcurrent')
          obtain ⟨hbound, -⟩ := List.getElem?_eq_some_iff.1 hm
          rw [hplace] at hindex
          exact h ⟨hword, hindex, by rw [← hplace]; exact Int.natCast_nonneg index, by
            rw [← hplace]; exact Int.ofNat_lt.2 hbound⟩

namespace Qualifier

theorem milestonePredicate_ne_all (s : Snapshot) (content : Text) : milestonePredicate s content ≠ .all := by
  rw [milestonePredicate]
  split
  · split <;> nofun
  · nofun
  · nofun

theorem milestonePredicate_eq_nothing_iff (s : Snapshot) (content : Text) :
    milestonePredicate s content = .nothing ↔ Reference.read content = .malformed ∨ s.RefersToNone content := by
  rw [milestonePredicate, Milestone.resolve, Snapshot.RefersToNone]
  cases hread : Reference.read content with
  | title => simp [Reference.resolve]
  | malformed => simp [Reference.resolve]
  | offset places =>
      rcases resolve_offset s places with ⟨index, m, hresolve, hm, hstands⟩ | ⟨hresolve, hnone⟩
      · rw [hresolve]
        simp [hm]
        exact ⟨m, hstands⟩
      · rw [hresolve]
        simp [hnone]

theorem testing_isTest {α : Type} {read : Option α} (h : read.isSome) (holds : α → Issue → Bool) :
    (testing read holds).IsTest := by
  obtain ⟨a, rfl⟩ := Option.isSome_iff_exists.1 h
  exact ⟨holds a, rfl⟩

theorem testing_eq_all {α : Type} {read : Option α} (h : read.isSome = false) (holds : α → Issue → Bool) :
    testing read holds = .all := by
  rw [Option.isSome_eq_false_iff, Option.isNone_iff_eq_none] at h
  rw [h, testing]

theorem predicate_isTest {q : Qualifier} {content : Text} (hq : q ≠ .milestone ∧ q ≠ .sort ∧ q ≠ .count)
    (h : q.contentType.accepts content) (ctx : Context) : (q.predicate ctx content).IsTest := by
  cases q with
  | milestone | sort | count => simp at hq
  | keyword | title | body | label | assignee | author | involves => exact ⟨_, rfl⟩
  | id | state | type | is | has | no | created | updated => exact testing_isTest h _

theorem predicate_eq_all {q : Qualifier} {content : Text} (hq : q ≠ .milestone)
    (h : q.contentType.accepts content = false) (ctx : Context) : q.predicate ctx content = .all := by
  cases q with
  | milestone => simp at hq
  | sort | count => rfl
  | keyword | title | body | label | assignee | author | involves => cases h
  | id | state | type | is | has | no | created | updated => exact testing_eq_all h _

theorem check_eq {q : Qualifier} (hq : q ≠ .sort) (content : Text) :
    q.check content = if q.contentType.accepts content then .ok () else .error (.invalidContent q content) := by
  cases q with
  | sort => exact absurd rfl hq
  | _ => rfl

theorem accepts_of_check {q : Qualifier} {content : Text} (hq : q ≠ .sort) (h : q.check content = .ok ()) :
    q.contentType.accepts content := by
  rw [check_eq hq] at h
  cases haccepts : q.contentType.accepts content with
  | true => rfl
  | false => simp [haccepts] at h

theorem refuses_of_check {q : Qualifier} {content : Text} {fault : SemanticFault} (hq : q ≠ .sort)
    (h : q.check content = .error fault) : q.contentType.accepts content = false := by
  rw [check_eq hq] at h
  cases haccepts : q.contentType.accepts content with
  | true => simp [haccepts] at h
  | false => rfl

theorem accepts_milestone_iff {content : Text} :
    Qualifier.milestone.contentType.accepts content = false ↔ Reference.read content = .malformed := by
  simp [contentType, ContentType.accepts, isMalformedReference]

theorem predicate_of_error {q : Qualifier} {content : Text} {fault : SemanticFault} (h : q.check content = .error fault)
    (ctx : Context) : if q = .milestone then q.predicate ctx content = .nothing ∧ Reference.read content = .malformed
      else q.predicate ctx content = .all := by
  split
  · next hq =>
      subst hq
      have hmalformed := accepts_milestone_iff.1 (refuses_of_check (by decide) h)
      exact ⟨(milestonePredicate_eq_nothing_iff _ _).2 (.inl hmalformed), hmalformed⟩
  · next hq =>
      by_cases hsort : q = .sort
      · rw [hsort, predicate]
      · exact predicate_eq_all hq (refuses_of_check hsort h) ctx

theorem predicate_of_ok {q : Qualifier} {content : Text} (h : q.check content = .ok ()) (ctx : Context) :
    (q.predicate ctx content = .all ↔ q = .sort ∨ q = .count) ∧
    (q.predicate ctx content = .nothing ↔ q = .milestone ∧ ctx.RefersToNone content) := by
  by_cases hshown : q = .sort ∨ q = .count
  · rcases hshown with rfl | rfl <;> simp [predicate]
  · obtain ⟨hsort, hcount⟩ := not_or.1 hshown
    have haccepts := accepts_of_check hsort h
    by_cases hq : q = .milestone
    · subst hq
      have hread : Reference.read content ≠ .malformed := by
        rw [ne_eq, ← accepts_milestone_iff, haccepts]
        decide
      have hall := milestonePredicate_ne_all ctx.toSnapshot content
      have hnothing := milestonePredicate_eq_nothing_iff ctx.toSnapshot content
      simp_all [predicate]
    · obtain ⟨hall, hnothing⟩ := (Predicate.isTest_iff _).1 (predicate_isTest ⟨hq, hsort, hcount⟩ haccepts ctx)
      simp_all

theorem validate_eq_ok_iff {name content : Text} {q : Qualifier} :
    validate name content = .ok q ↔ ofName? name = some q ∧ q.check content = .ok () := by
  cases hname : ofName? name with
  | none => simp [validate, hname]
  | some q' =>
      rw [validate, hname]
      constructor
      · intro h
        cases hcheck : q'.check content with
        | error fault => simp [hcheck, Except.map] at h
        | ok =>
            obtain rfl : q' = q := by simpa [hcheck, Except.map] using h
            exact ⟨rfl, hcheck⟩
      · rintro ⟨hq, hcheck⟩
        cases hq
        simp [hcheck, Except.map]

theorem validate_eq_error {name content : Text} {fault : SemanticFault} (h : validate name content = .error fault) :
    ofName? name = none ∨ ∃ q, ofName? name = some q ∧ q.check content = .error fault := by
  cases hname : ofName? name with
  | none => exact .inl rfl
  | some q =>
      refine .inr ⟨q, rfl, ?_⟩
      rw [validate, hname] at h
      cases hcheck : q.check content with
      | error fault' => simpa [hcheck, Except.map] using h
      | ok => simp [hcheck, Except.map] at h

structure Agrees (ctx : Context) (name content : Text) : Prop where
  refused : ∀ fault, validate name content = .error fault → ofName? name ≠ some .milestone →
    predicateOf ctx name content = .all
  malformed : ∀ fault, validate name content = .error fault → ofName? name = some .milestone →
    predicateOf ctx name content = .nothing ∧ Reference.read content = .malformed
  all_iff : ∀ q, validate name content = .ok q → (predicateOf ctx name content = .all ↔ q = .sort ∨ q = .count)
  nothing_iff : ∀ q, validate name content = .ok q →
    (predicateOf ctx name content = .nothing ↔ q = .milestone ∧ ctx.RefersToNone content)
  test_iff : ∀ q, validate name content = .ok q →
    ((predicateOf ctx name content).IsTest ↔
      ¬ (q = .sort ∨ q = .count) ∧ ¬ (q = .milestone ∧ ctx.RefersToNone content))

theorem predicateOf_of_some {name : Text} {q : Qualifier} (h : ofName? name = some q) (ctx : Context) (content : Text) :
    predicateOf ctx name content = q.predicate ctx content := by
  rw [predicateOf, h]

theorem agrees (ctx : Context) (name content : Text) : Agrees ctx name content where
  refused := by
    intro fault h hname
    rcases validate_eq_error h with hnone | ⟨q, hq, hcheck⟩
    · rw [predicateOf, hnone]
    · have hspec := predicate_of_error hcheck ctx
      rw [if_neg (by rintro rfl; exact hname hq)] at hspec
      rw [predicateOf_of_some hq, hspec]
  malformed := by
    intro fault h hname
    rcases validate_eq_error h with hnone | ⟨q, hq, hcheck⟩
    · rw [hnone] at hname
      cases hname
    · obtain rfl : q = .milestone := Option.some.inj (hq.symm.trans hname)
      rw [predicateOf_of_some hq]
      exact predicate_of_error hcheck ctx
  all_iff := by
    intro q h
    obtain ⟨hname, hcheck⟩ := validate_eq_ok_iff.1 h
    rw [predicateOf_of_some hname]
    exact (predicate_of_ok hcheck ctx).1
  nothing_iff := by
    intro q h
    obtain ⟨hname, hcheck⟩ := validate_eq_ok_iff.1 h
    rw [predicateOf_of_some hname]
    exact (predicate_of_ok hcheck ctx).2
  test_iff := by
    intro q h
    obtain ⟨hname, hcheck⟩ := validate_eq_ok_iff.1 h
    obtain ⟨hall, hnothing⟩ := predicate_of_ok hcheck ctx
    rw [predicateOf_of_some hname, Predicate.isTest_iff, ne_eq, ne_eq, hall, hnothing]

end Qualifier

end Triage
