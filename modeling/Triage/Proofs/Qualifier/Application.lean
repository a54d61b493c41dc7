import Triage.Proofs.Milestone.Resolution
import Triage.Proofs.Qualifier.Fulfilment

namespace Triage

namespace Snapshot

def resolution (s : Snapshot) (content : Text) : Milestone.Resolution :=
  Milestone.resolve content s.milestones.length (s.currentMilestone.map UInt64.toNat)

def Lacks (s : Snapshot) (content : Text) : Prop :=
  s.resolution content = .unresolved ∨
    s.resolution content = .notReference ∧ ∀ m ∈ s.milestones, ¬ content.lower <:+: m.title.lower

theorem find?_title_eq_none_iff {milestones : List Milestone} {content : Text} :
    (milestones.find? fun m => m.title.sameWord content).or
      (milestones.find? fun m => content.lower.occursIn m.title.lower) = none ↔
        ∀ m ∈ milestones, ¬ content.lower <:+: m.title.lower := by
  simp only [Option.or_eq_none_iff, List.find?_eq_none, Text.occursIn_iff]
  constructor
  · exact fun h => h.2
  · intro h
    refine ⟨fun m hm hsame => h m hm ?_, h⟩
    exact Text.occursIn_iff.1 (Text.mentions_of_sameWord hsame)

theorem milestoneMeant?_eq_none_iff {s : Snapshot} {content : Text} :
    s.milestoneMeant? content = none ↔ s.Lacks content := by
  rw [milestoneMeant?, Lacks, resolution]
  cases hresolve : Milestone.resolve content s.milestones.length (s.currentMilestone.map UInt64.toNat) with
  | resolved index =>
      have hlt := Milestone.lt_of_resolve hresolve
      simp [hlt]
  | unresolved => simp
  | notReference => simpa using find?_title_eq_none_iff

end Snapshot

namespace Qualifier

theorem holds_apply {ctx : Context} (hctx : ctx.toSnapshot.Distinct) {q : Qualifier} {content : Text}
    (hq : q.canApply content) (issue : Issue) :
    (q = .milestone ∧ ctx.Lacks content → q.apply ctx.toSnapshot content issue = issue) ∧
    (¬ (q = .milestone ∧ ctx.Lacks content) →
      (q.predicate ctx content).holds (q.apply ctx.toSnapshot content issue)) := by
  constructor
  · rintro ⟨rfl, hlacks⟩
    rw [apply, Snapshot.milestoneMeant?_eq_none_iff.2 hlacks]
  · intro hknown
    have hmeant (hmilestone : q = .milestone) : (ctx.milestoneMeant? content).isSome := by
      rw [Option.isSome_iff_ne_none, ne_eq, Snapshot.milestoneMeant?_eq_none_iff]
      exact fun hlacks => hknown ⟨hmilestone, hlacks⟩
    obtain ⟨c, hchange, hensured⟩ := exists_change hctx hq hmeant
    rw [apply_eq_runAll, hchange]
    exact hensured _ (Change.done_run.2 (.inl rfl))

def smallTeam : Context where
  milestones := [⟨1, "v1".toList, none, true⟩]
  collaborators := [⟨"kim".toList, some "Robert".toList⟩, ⟨"rob".toList, none⟩]
  now := .midnight ⟨2024, 1, 3, by decide⟩

theorem holds_apply_shown_name :
    smallTeam.toSnapshot.Distinct ∧ assignee.canApply "ROBERT".toList ∧ milestone.canApply "curr+1".toList ∧
      smallTeam.Lacks "curr+1".toList ∧
      ∀ issue : Issue,
        (assignee.predicate smallTeam "ROBERT".toList).holds
          (assignee.apply smallTeam.toSnapshot "ROBERT".toList issue) ∧
        milestone.apply smallTeam.toSnapshot "curr+1".toList issue = issue := by
  have hctx : smallTeam.toSnapshot.Distinct := by
    constructor <;> simp [smallTeam]
    decide
  have hlacks : smallTeam.Lacks "curr+1".toList := .inl (by decide)
  refine ⟨hctx, rfl, rfl, hlacks, fun issue => ⟨?_, ?_⟩⟩
  · exact (holds_apply hctx rfl issue).2 (by simp)
  · exact (holds_apply hctx rfl issue).1 ⟨rfl, hlacks⟩

end Qualifier

end Triage
