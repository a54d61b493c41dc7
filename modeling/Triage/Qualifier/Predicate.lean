import Triage.Comparison
import Triage.Milestone.Reference
import Triage.Qualifier
import Triage.Text.Casing

/-!
The test that a qualifier makes of an issue. Content that a qualifier cannot read tests nothing and lets every issue
pass; a reference to no milestone lets none pass.
-/

namespace Triage

inductive Predicate where
  | all
  | nothing
  | test (holds : Issue → Bool)

def Predicate.holds : Predicate → Issue → Bool
  | .all, _ => true
  | .nothing, _ => false
  | .test p, issue => p issue

def Text.mentions (t needle : Text) : Bool := needle.occursIn t.lower

namespace Issue

def has (issue : Issue) : Attribute → Bool
  | .label => !issue.labels.isEmpty
  | .milestone => issue.milestone.isSome
  | .assignee => issue.assignee.isSome

def isInState (issue : Issue) : State → Bool
  | .opened => issue.isOpen
  | .closed => !issue.isOpen

def isOfNature (issue : Issue) : Nature → Bool
  | .issue => !issue.isPullRequest
  | .pullRequest => issue.isPullRequest

def hasAspect (issue : Issue) : Aspect → Bool
  | .opened => issue.isOpen
  | .closed => !issue.isOpen
  | .issue => !issue.isPullRequest
  | .pullRequest => issue.isPullRequest
  | .merged => issue.isPullRequest && issue.isMerged
  | .unmerged => issue.isPullRequest && !issue.isMerged

end Issue

def Snapshot.userMentions (s : Snapshot) (login needle : Text) : Bool :=
  login.mentions needle ||
    ((s.collaborator? login).bind User.name).any fun name => name.mentions needle

namespace Qualifier

def testing {α : Type} (read : Option α) (holds : α → Issue → Bool) : Predicate :=
  match read with
  | some a => .test (holds a)
  | none => .all

def milestonePredicate (s : Snapshot) (content : Text) : Predicate :=
  match Milestone.resolve content s.milestones.length (s.currentMilestone.map UInt64.toNat) with
  | .resolved index =>
    match s.milestones[index]? with
    | some m => .test fun issue => issue.milestone == some m.id
    | none => .nothing
  | .unresolved => .nothing
  | .notReference =>
    .test fun issue => (issue.milestone.bind s.milestoneById?).any fun m => m.title.mentions content.lower

/-- Identifiers are compared as integers of 64 bits with a sign; one that is none of these passes no comparison. -/
def idHolds (c : Comparison Int) (issue : Issue) : Bool :=
  let id := Int.ofNat issue.id.toNat
  Text.inWord id && c.holds id

def predicate (ctx : Context) (content : Text) : Qualifier → Predicate
  | .id => testing (Comparison.read? readInteger? content) idHolds
  | .keyword => .test fun issue => issue.title.mentions content.lower || issue.body.mentions content.lower
  | .title => .test fun issue => issue.title.mentions content.lower
  | .body => .test fun issue => issue.body.mentions content.lower
  | .milestone => milestonePredicate ctx.toSnapshot content
  | .label => .test fun issue => issue.labels.any fun name => Label.answers name content.lower
  | .assignee => .test fun issue => issue.assignee.any fun login => ctx.userMentions login content.lower
  | .author => .test fun issue => ctx.userMentions issue.author content.lower
  | .involves => .test fun issue =>
    ctx.userMentions issue.author content.lower ||
      issue.assignee.any fun login => ctx.userMentions login content.lower
  | .state => testing (Vocabulary.read? content) fun wanted issue => issue.isInState wanted
  | .type => testing (Vocabulary.read? content) fun wanted issue => issue.isOfNature wanted
  | .is => testing (Vocabulary.read? content) fun wanted issue => issue.hasAspect wanted
  | .has => testing (Vocabulary.read? content) fun wanted issue => issue.has wanted
  | .no => testing (Vocabulary.read? content) fun unwanted issue => !issue.has unwanted
  | .created => testing (DateCondition.read? content) fun c issue => c.holds ctx.now issue.createdAt
  | .updated => testing (DateCondition.read? content) fun c issue => c.holds ctx.now issue.updatedAt
  | .sort | .count => .all

/-- The test that a term makes. A name that is no qualifier's lets every issue pass. -/
def predicateOf (ctx : Context) (name content : Text) : Predicate :=
  match ofName? name with
  | some q => q.predicate ctx content
  | none => .all

end Qualifier

end Triage
