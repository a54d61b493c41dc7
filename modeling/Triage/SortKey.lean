import Triage.Issue
import Triage.Text.Casing
import Triage.Vocabulary

namespace Triage

inductive SortField where
  | id
  | title
  | comments
  | created
  | updated
  /-- The place in the milestone sequence; issues without one come last. -/
  | milestone
  | assignee
  | merged
  | unmerged
  deriving DecidableEq, Repr

namespace SortField

instance : Vocabulary SortField where
  all := [.id, .title, .comments, .created, .updated, .milestone, .assignee, .merged, .unmerged]
  preferred
    | .id => "id".toList
    | .title => "title".toList
    | .comments => "comments".toList
    | .created => "created".toList
    | .updated => "updated".toList
    | .milestone => "milestone".toList
    | .assignee => "assignee".toList
    | .merged => "merged".toList
    | .unmerged => "unmerged".toList

def absentLast {α : Type} [Ord α] : Option α → Option α → Ordering
  | some a, some b => compare a b
  | some _, none => .lt
  | none, some _ => .gt
  | none, none => .eq

def compare (s : Snapshot) (a b : Issue) : SortField → Ordering
  | .id => Ord.compare a.id b.id
  | .title => Ord.compare a.title.lower b.title.lower
  | .comments => Ord.compare a.commentCount b.commentCount
  | .created => Ord.compare a.createdAt b.createdAt
  | .updated => Ord.compare a.updatedAt b.updatedAt
  | .milestone => absentLast (a.milestone.bind s.milestonePosition?) (b.milestone.bind s.milestonePosition?)
  | .assignee => absentLast (a.assignee.map Text.lower) (b.assignee.map Text.lower)
  | .merged => Ord.compare b.isMerged a.isMerged
  | .unmerged => Ord.compare a.isMerged b.isMerged

end SortField

structure SortKey where
  field : SortField
  descending : Bool
  deriving DecidableEq, Repr

namespace SortKey

def compare (s : Snapshot) (key : SortKey) (a b : Issue) : Ordering :=
  let ordering := key.field.compare s a b
  if key.descending then ordering.swap else ordering

/-- The first key that tells two issues apart decides. -/
def compareAll (s : Snapshot) (keys : List SortKey) (a b : Issue) : Ordering :=
  keys.foldr (fun key rest => (key.compare s a b).then rest) .eq

def read? : Text → Option SortKey
  | '-' :: name => (Vocabulary.read? name).map (⟨·, true⟩)
  | name => (Vocabulary.read? name).map (⟨·, false⟩)

/-- Reads the parts of a list one by one; the first that is no key is the error. -/
def readParts : List Text → Except Text (List SortKey)
  | [] => .ok []
  | part :: parts =>
    match read? part with
    | none => .error part
    | some key => (readParts parts).map (key :: ·)

def readAll (t : Text) : Except Text (List SortKey) := readParts ((t.fields ',').map Text.trim)

end SortKey

end Triage
