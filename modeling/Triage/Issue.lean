import Triage.Label
import Triage.Calendar.Timestamp

namespace Triage

structure Issue where
  id : UInt64
  title : Text
  body : Text := []
  author : Text
  assignee : Option Text := none
  labels : List Text := []
  milestone : Option UInt64 := none
  isOpen : Bool := true
  isPullRequest : Bool := false
  isMerged : Bool := false
  createdAt : Timestamp
  updatedAt : Timestamp
  commentCount : UInt32 := 0
  deriving DecidableEq, Repr

structure Milestone where
  id : UInt64
  title : Text
  dueDate : Option Date := none
  isOpen : Bool := true
  deriving DecidableEq, Repr

structure User where
  login : Text
  name : Option Text := none
  deriving DecidableEq, Repr

/-- Milestones stand in the order in which relative references count them. -/
structure Snapshot where
  issues : List Issue := []
  milestones : List Milestone := []
  currentMilestone : Option UInt64 := none
  labels : List Label := []
  collaborators : List User := []
  deriving DecidableEq, Repr

structure Context extends Snapshot where
  now : Timestamp
  deriving DecidableEq, Repr

namespace Snapshot

def milestoneById? (s : Snapshot) (id : UInt64) : Option Milestone := s.milestones.find? (·.id == id)

def milestonePosition? (s : Snapshot) (id : UInt64) : Option Nat := s.milestones.findIdx? (·.id == id)

def collaborator? (s : Snapshot) (login : Text) : Option User :=
  s.collaborators.find? fun user => user.login.sameWord login

end Snapshot

namespace Milestone

def currentIndex? (milestones : List Milestone) (today : Date) : Option Nat :=
  milestones.findIdx? fun m => m.isOpen && m.dueDate.any fun due => (compare due today).isGE

end Milestone

end Triage
