import Triage.Proofs.CommandLine.Outcome
import Triage.Proofs.Filter.Recompilation
import Triage.Proofs.Milestone.Reference
import Triage.Proofs.SortKey.Order

namespace Triage

open Milestone.Reference

namespace Filter

theorem select_term {name : Text} {q : Qualifier} (hname : Qualifier.ofName? name = some q) (hsort : q ≠ .sort)
    (hcount : q ≠ .count) (ctx : Context) (content : Text) :
    (term name content).select ctx = ctx.issues.filter fun issue => (q.predicate ctx content).holds issue := by
  have hkeys : (term name content).sortKeys? = none := by simp [sortKeys?, contentsOf, terms, hname, hsort]
  have hlimit : (term name content).limit? = none := by simp [limit?, contentsOf, topTerms, hname, hcount]
  rw [select, hkeys, hlimit]
  simp only [satisfiedBy, Qualifier.predicateOf_of_some hname]

theorem compile_current {sign : Char} {places : Int} {n : Nat} (h : Directed n sign places) :
    (compile ("milestone:current".toList ++ sign :: Text.ofNat n)).filter =
      .term "milestone".toList ("current".toList ++ sign :: Text.ofNat n) := by
  have hsign : Text.isContentChar sign := by
    cases h with
    | forward | back => decide
  have hdigits : (Text.ofNat n).all Text.isContentChar := by
    rw [List.all_eq_true]
    exact fun c hc => Text.isContentChar_of_isDigit (List.all_eq_true.1 (Text.all_isDigit_ofNat n) c hc)
  have hcontent : ("current".toList ++ sign :: Text.ofNat n).all Text.isContentChar := by
    rw [List.all_append, List.all_cons, hsign, hdigits]
    decide
  exact @compile_bare "milestone".toList _ (by decide) (by decide) (by simp) hcontent

end Filter

def Milestone.DueFrom (m : Milestone) (today : Date) : Prop :=
  m.isOpen ∧ ∃ due, m.dueDate = some due ∧ ¬ due.Before today

namespace Snapshot

def FirstDue (s : Snapshot) (today : Date) (place : Nat) : Prop :=
  (∃ m, s.milestones[place]? = some m ∧ m.DueFrom today) ∧
    ∀ before m, before < place → s.milestones[before]? = some m → ¬ m.DueFrom today

/-- Whether the places of all milestones are words of 64 bits with a sign, as in any sequence that is held in memory. -/
def Addressable (s : Snapshot) : Prop := s.milestones.length ≤ 2 ^ 63

end Snapshot

namespace Settings

/-- The place of the current milestone: as given with the run, or else with the snapshot, or else where the first one
that is due stands. -/
def PointsAt (settings : Settings) (s : Snapshot) (today : Date) (place : Nat) : Prop :=
  match settings.currentMilestone.or s.currentMilestone with
  | some given => given.toNat = place
  | none => s.FirstDue today place

def Reaches (settings : Settings) (s : Snapshot) (today : Date) (places : Int) (m : Milestone) : Prop :=
  ∃ p q : Nat, settings.PointsAt s today p ∧ (q : Int) = p + places ∧ s.milestones[q]? = some m

end Settings

theorem Milestone.dueFrom_iff {m : Milestone} {today : Date} :
    (m.isOpen && m.dueDate.any fun due => (compare due today).isGE) = true ↔ m.DueFrom today := by
  rw [DueFrom, Bool.and_eq_true, Option.any_eq_true]
  simp only [← Date.compare_eq_lt, Ordering.isGE_iff_ne_lt]

theorem Snapshot.firstDue_iff {s : Snapshot} {today : Date} {p : Nat} :
    s.FirstDue today p ↔ Milestone.currentIndex? s.milestones today = some p := by
  rw [Milestone.currentIndex?, List.findIdx?_eq_some_iff_getElem, FirstDue]
  simp only [Milestone.dueFrom_iff, List.getElem?_eq_some_iff]
  constructor
  · rintro ⟨⟨m, ⟨hp, rfl⟩, hm⟩, hbefore⟩
    exact ⟨hp, hm, fun j hj => hbefore j _ hj ⟨Nat.lt_trans hj hp, rfl⟩⟩
  · rintro ⟨hp, hm, hbefore⟩
    refine ⟨⟨_, ⟨hp, rfl⟩, hm⟩, ?_⟩
    rintro j m hj ⟨-, rfl⟩
    exact hbefore j hj

namespace Settings

theorem toNat_ofNat_of_le {p : Nat} (h : p ≤ 2 ^ 63 - 1) : (UInt64.ofNat p).toNat = p :=
  UInt64.toNat_ofNat_of_lt' (Nat.lt_of_le_of_lt h (by decide))

theorem date_now {settings : Settings} {today : Date} (h : settings.today = some today) (clock : Timestamp) :
    (settings.now clock).date = today := by
  rw [now, h]
  rfl

theorem pointsAt_iff {settings : Settings} {s : Snapshot} {today : Date} (htoday : settings.today = some today)
    (hword : ∀ p, settings.PointsAt s today p → p ≤ 2 ^ 63 - 1) (clock : Timestamp) (p : Nat) :
    settings.PointsAt s today p ↔ ∃ c, settings.currentIndex? clock s = some c ∧ c.toNat = p := by
  simp only [PointsAt] at hword ⊢
  rw [currentIndex?, ← Option.or_assoc, date_now htoday]
  cases hgiven : settings.currentMilestone.or s.currentMilestone with
  | some given => simp
  | none =>
      rw [hgiven] at hword
      simp only [Option.none_or, Option.map_eq_some_iff, ← Snapshot.firstDue_iff]
      constructor
      · intro h
        exact ⟨.ofNat p, ⟨p, h, rfl⟩, toNat_ofNat_of_le (hword p h)⟩
      · rintro ⟨_, ⟨q, h, rfl⟩, rfl⟩
        rwa [toNat_ofNat_of_le (hword q h)]

theorem reaches_iff {settings : Settings} {s : Snapshot} {today : Date} (htoday : settings.today = some today)
    (haddress : s.Addressable) (hword : ∀ p, settings.PointsAt s today p → p ≤ 2 ^ 63 - 1) (clock : Timestamp)
    (places : Int) (m : Milestone) :
    settings.Reaches s today places m ↔ (CommandLine.contextOf settings clock s).StandsAt places m := by
  have hpoints := pointsAt_iff htoday hword clock
  constructor
  · rintro ⟨p, q, hp, hplace, hm⟩
    obtain ⟨c, hc, rfl⟩ := (hpoints p).1 hp
    obtain ⟨hlength, -⟩ := List.getElem?_eq_some_iff.1 hm
    have hc' : c.toNat < 2 ^ 63 := Nat.lt_of_le_of_lt (hword _ hp) (by decide)
    have hq : q < 2 ^ 63 := Nat.lt_of_lt_of_le hlength haddress
    refine ⟨c, q, hc, ?_, ?_, hplace, hm⟩
    · rw [Text.inWord_ofNat, decide_eq_true hc']
    · rw [Text.inWord_ofNat, decide_eq_true hq]
  · rintro ⟨c, q, hc, -, -, hplace, hm⟩
    exact ⟨c.toNat, q, (hpoints _).2 ⟨c, hc, rfl⟩, hplace, hm⟩

theorem not_reaches {settings : Settings} {s : Snapshot} {today : Date} {sign : Char} {places : Int} {n : Nat}
    (haddress : s.Addressable) (hword : ∀ p, settings.PointsAt s today p → p ≤ 2 ^ 63 - 1)
    (hdirected : Directed n sign places) (hn : ¬ n < 2 ^ 63) (m : Milestone) :
    ¬ settings.Reaches s today places m := by
  rintro ⟨p, q, hp, hplace, hm⟩
  have hp' := hword p hp
  obtain ⟨hlength, -⟩ := List.getElem?_eq_some_iff.1 hm
  have hq : q < 2 ^ 63 := Nat.lt_of_lt_of_le hlength haddress
  cases hdirected with
  | forward | back => omega

end Settings

namespace CommandLine

theorem shown_current {settings : Settings} {sign : Char} {places : Int} {n : Nat} (h : Directed n sign places)
    (hfilter : settings.filter = "milestone:current".toList ++ sign :: Text.ofNat n) (clock : Timestamp)
    (s : Snapshot) : shown settings clock s = s.issues.filter fun issue =>
      (Qualifier.milestonePredicate (contextOf settings clock s).toSnapshot
        ("current".toList ++ sign :: Text.ofNat n)).holds issue := by
  have hname : Qualifier.ofName? "milestone".toList = some .milestone := by decide
  rw [shown, hfilter, Filter.compile_current h, Filter.select_term hname (by decide) (by decide)]
  rfl

section

variable {settings : Settings} {s : Snapshot} {today : Date} {sign : Char} {places : Int} {n : Nat}

theorem milestonePredicate_of_reaches (htoday : settings.today = some today) (haddress : s.Addressable)
    (hword : ∀ p, settings.PointsAt s today p → p ≤ 2 ^ 63 - 1) (hdirected : Directed n sign places) (clock : Timestamp)
    {m : Milestone} (hm : settings.Reaches s today places m) :
    Qualifier.milestonePredicate (contextOf settings clock s).toSnapshot ("current".toList ++ sign :: Text.ofNat n) =
      .test fun issue => issue.milestone == some m.id := by
  have hn : n < 2 ^ 63 := Decidable.byContradiction fun hn => Settings.not_reaches haddress hword hdirected hn m hm
  have hread := read_directed hdirected
  rw [if_pos hn] at hread
  have hstands := (Settings.reaches_iff htoday haddress hword clock places m).1 hm
  exact Qualifier.milestonePredicate_of_standsAt hread hstands

theorem milestonePredicate_of_not_reaches (htoday : settings.today = some today) (haddress : s.Addressable)
    (hword : ∀ p, settings.PointsAt s today p → p ≤ 2 ^ 63 - 1) (hdirected : Directed n sign places) (clock : Timestamp)
    (hnone : ∀ m, ¬ settings.Reaches s today places m) :
    Qualifier.milestonePredicate (contextOf settings clock s).toSnapshot ("current".toList ++ sign :: Text.ofNat n) =
      .nothing := by
  have hread := read_directed hdirected
  rw [Qualifier.milestonePredicate_eq_nothing_iff]
  by_cases hn : n < 2 ^ 63
  · rw [if_pos hn] at hread
    refine .inr ⟨places, hread, fun m hstands => hnone m ?_⟩
    exact (Settings.reaches_iff htoday haddress hword clock places m).2 hstands
  · rw [if_neg hn] at hread
    exact .inl hread

end

theorem lists_current {settings : Settings} {s : Snapshot} {today : Date} {sign : Char} {places : Int} {n : Nat}
    (htoday : settings.today = some today) (haddress : s.Addressable)
    (hword : ∀ p, settings.PointsAt s today p → p ≤ 2 ^ 63 - 1) (hdirected : Directed n sign places)
    (hfilter : settings.filter = "milestone:current".toList ++ sign :: Text.ofNat n) (clock : Timestamp) :
    (∀ m, settings.Reaches s today places m →
      Lists settings clock s (s.issues.filter fun issue => issue.milestone == some m.id)) ∧
    ((∀ m, ¬ settings.Reaches s today places m) → Lists settings clock s []) := by
  have hlists := lists_shown settings clock s
  rw [shown_current hdirected hfilter] at hlists
  constructor
  · intro m hm
    rwa [milestonePredicate_of_reaches htoday haddress hword hdirected clock hm] at hlists
  · intro hnone
    have hnil : s.issues.filter (Predicate.nothing.holds ·) = [] := List.filter_eq_nil_iff.2 fun _ _ => nofun
    rwa [milestonePredicate_of_not_reaches htoday haddress hword hdirected clock hnone, hnil] at hlists

def mayFifth : Date := ⟨2024, 5, 5, by decide⟩

def nextMilestone : Settings where
  filter := "milestone:current+1".toList
  snapshot := "issues.json".toList
  today := some mayFifth

def planned : Issue where
  id := 1
  title := "Plan".toList
  author := "ann".toList
  milestone := some 40
  createdAt := .midnight mayFifth
  updatedAt := .midnight mayFifth

def fourMilestones : Snapshot where
  issues := [{ planned with milestone := some 30 }, planned, { planned with id := 2, milestone := none },
    { planned with id := 3, isOpen := false }]
  milestones := [⟨10, "v1".toList, some ⟨2024, 6, 1, by decide⟩, false⟩,
    ⟨20, "v2".toList, some ⟨2024, 5, 4, by decide⟩, true⟩, ⟨30, "v3".toList, some mayFifth, true⟩,
    ⟨40, "v4".toList, none, true⟩]

theorem reaches_fourMilestones :
    nextMilestone.Reaches fourMilestones mayFifth 1 ⟨40, "v4".toList, none, true⟩ :=
  ⟨2, 3, Snapshot.firstDue_iff.2 (by decide), rfl, rfl⟩

theorem pointsAt_fourMilestones (p : Nat) (h : nextMilestone.PointsAt fourMilestones mayFifth p) : p ≤ 2 ^ 63 - 1 := by
  obtain ⟨⟨m, hm, -⟩, -⟩ := h
  obtain ⟨hlength, -⟩ := List.getElem?_eq_some_iff.1 hm
  exact Nat.le_of_lt (Nat.lt_trans hlength (by decide))

theorem lists_current_next :
    nextMilestone.today = some mayFifth ∧ fourMilestones.Addressable ∧
      (∀ p, nextMilestone.PointsAt fourMilestones mayFifth p → p ≤ 2 ^ 63 - 1) ∧
      Directed 1 '+' 1 ∧ nextMilestone.filter = "milestone:current".toList ++ '+' :: Text.ofNat 1 ∧
      Lists nextMilestone (.midnight mayFifth) fourMilestones [planned, { planned with id := 3, isOpen := false }] := by
  have haddress : fourMilestones.Addressable := by
    rw [Snapshot.Addressable]
    decide
  have hfilter : nextMilestone.filter = "milestone:current".toList ++ '+' :: Text.ofNat 1 := by decide
  have hlists := lists_current rfl haddress pointsAt_fourMilestones .forward hfilter (.midnight mayFifth)
  exact ⟨rfl, haddress, pointsAt_fourMilestones, .forward, hfilter, hlists.1 _ reaches_fourMilestones⟩

end CommandLine

end Triage
