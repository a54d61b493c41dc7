import Triage.Milestone.Reference
import Triage.Qualifier
import Triage.Text.Casing

/-!
Changing an issue so that it satisfies a qualifier. Only labels, the milestone, the assignee and the state can be
changed that way.
-/

namespace Triage

namespace Issue

/-- Adds a label, unless the issue carries it. The label of an exclusive group replaces all others of the group and
goes to the end. -/
def addLabel (issue : Issue) (name : Text) : Issue :=
  let kept :=
    match Label.exclusiveGroup? name with
    | some group => issue.labels.filter fun other => Label.exclusiveGroup? other != some group
    | none => issue.labels
  { issue with labels := if kept.contains name then kept else kept ++ [name] }

end Issue

namespace Snapshot

/-- The name of the known label that is spelt so in any case, or the name as given. -/
def labelNamed (s : Snapshot) (name : Text) : Text :=
  ((s.labels.find? fun l => l.name.sameWord name).map Label.name).getD name

/-- The login of the collaborator with such a login or shown name, or the login as given. -/
def loginOf (s : Snapshot) (name : Text) : Text :=
  ((s.collaborators.find? fun user =>
    user.login.sameWord name || user.name.any fun shown => shown.sameWord name).map User.login).getD name

/-- The milestone that a reference names, or else the first one of that title, or else the first one whose title
contains it. -/
def milestoneMeant? (s : Snapshot) (content : Text) : Option Milestone :=
  match Milestone.resolve content s.milestones.length (s.currentMilestone.map UInt64.toNat) with
  | .resolved index => s.milestones[index]?
  | .unresolved => none
  | .notReference =>
    (s.milestones.find? fun m => m.title.sameWord content).or
      (s.milestones.find? fun m => content.lower.occursIn m.title.lower)

end Snapshot

namespace Qualifier

def canApply (content : Text) : Qualifier → Bool
  | .label | .milestone | .assignee => true
  | .state => (Vocabulary.read? content : Option State).isSome
  | .is =>
    match (Vocabulary.read? content : Option Aspect) with
    | some .opened | some .closed => true
    | _ => false
  | _ => false

/-- The issue changed so that it satisfies the qualifier. Other qualifiers leave it as it is, and so does a milestone
that is not known. -/
def apply (s : Snapshot) (content : Text) (issue : Issue) : Qualifier → Issue
  | .label => issue.addLabel (s.labelNamed content)
  | .milestone =>
    match s.milestoneMeant? content with
    | some m => { issue with milestone := some m.id }
    | none => issue
  | .assignee => { issue with assignee := some (s.loginOf content) }
  | .state | .is =>
    match (Vocabulary.read? content : Option State) with
    | some wanted => { issue with isOpen := wanted == .opened }
    | none => issue
  | _ => issue

end Qualifier

end Triage
