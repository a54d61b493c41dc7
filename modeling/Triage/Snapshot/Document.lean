import Triage.Calendar.Reader
import Triage.Issue
import Triage.Json.Reader

/-!
Snapshots as JSON documents. A record is written as an object with all its fields. It is read from an object, in which
fields with a default may be left out and unknown fields are ignored, or from an array of its fields in order, from which
the last ones may be left out.
-/

namespace Triage

namespace Json

/-- The one field of that name, if there is one; a repeated field is refused. -/
def field? (entries : List (Option Text × Json)) (name : Text) : Option (Option Json) :=
  match entries.filter fun (key, _) => key == some name with
  | [] => some none
  | [(_, value)] => some (some value)
  | _ => none

def record? (names : List String) : Json → Option (List (Option Json))
  | .object entries =>
    if entries.all fun (key, _) => key.isSome then names.mapM fun name => field? entries name.toList else none
  | .array items =>
    if items.length ≤ names.length then
      some (items.map some ++ List.replicate (names.length - items.length) none)
    else none
  | _ => none

variable {α : Type}

def required (read : Json → Option α) (value : Option Json) : Option α := value.bind read

def orDefault (default : α) (read : Json → Option α) : Option Json → Option α
  | none => some default
  | some value => read value

def nullable (read : Json → Option α) : Json → Option (Option α)
  | .null => some none
  | value => (read value).map some

def toText? : Json → Option Text
  | .string s => s
  | _ => none

def toBool? : Json → Option Bool
  | .bool b => some b
  | _ => none

def toList? (read : Json → Option α) : Json → Option (List α)
  | .array items => items.mapM read
  | _ => none

def toUInt64? : Json → Option UInt64
  | .natural n => if n < UInt64.size then some (UInt64.ofNat n) else none
  | _ => none

def toUInt32? : Json → Option UInt32
  | .natural n => if n < UInt32.size then some (UInt32.ofNat n) else none
  | _ => none

def toDate? (value : Json) : Option Date := value.toText?.bind Date.readLoose?

def toTimestamp? (value : Json) : Option Timestamp := value.toText?.bind Timestamp.read?

def ofOption (write : α → Json) : Option α → Json
  | none => .null
  | some a => write a

end Json

open Json

namespace Issue

def fieldNames : List String :=
  ["id", "title", "body", "author", "assignee", "labels", "milestone", "is_open", "is_pull_request", "is_merged",
    "created_at", "updated_at", "comment_count"]

def ofJson? (value : Json) : Option Issue := do
  match ← record? fieldNames value with
  | [id, title, body, author, assignee, labels, milestone, isOpen, isPullRequest, isMerged, createdAt, updatedAt,
      commentCount] =>
    return {
      id := ← required toUInt64? id
      title := ← required toText? title
      body := ← orDefault [] toText? body
      author := ← required toText? author
      assignee := ← orDefault none (nullable toText?) assignee
      labels := ← orDefault [] (toList? toText?) labels
      milestone := ← orDefault none (nullable toUInt64?) milestone
      isOpen := ← orDefault true toBool? isOpen
      isPullRequest := ← orDefault false toBool? isPullRequest
      isMerged := ← orDefault false toBool? isMerged
      createdAt := ← required toTimestamp? createdAt
      updatedAt := ← required toTimestamp? updatedAt
      commentCount := ← orDefault 0 toUInt32? commentCount }
  | _ => none

def toJson (issue : Issue) : Json :=
  Json.fields [
    ("id", .natural issue.id.toNat),
    ("title", text issue.title),
    ("body", text issue.body),
    ("author", text issue.author),
    ("assignee", ofOption text issue.assignee),
    ("labels", .array (issue.labels.map text)),
    ("milestone", ofOption (fun id => .natural id.toNat) issue.milestone),
    ("is_open", .bool issue.isOpen),
    ("is_pull_request", .bool issue.isPullRequest),
    ("is_merged", .bool issue.isMerged),
    ("created_at", text issue.createdAt.write),
    ("updated_at", text issue.updatedAt.write),
    ("comment_count", .natural issue.commentCount.toNat)]

end Issue

namespace Milestone

def fieldNames : List String := ["id", "title", "due_date", "is_open"]

def ofJson? (value : Json) : Option Milestone := do
  match ← record? fieldNames value with
  | [id, title, dueDate, isOpen] =>
    return {
      id := ← required toUInt64? id
      title := ← required toText? title
      dueDate := ← orDefault none (nullable toDate?) dueDate
      isOpen := ← orDefault true toBool? isOpen }
  | _ => none

def toJson (m : Milestone) : Json :=
  Json.fields [
    ("id", .natural m.id.toNat),
    ("title", text m.title),
    ("due_date", ofOption (fun due => text due.write) m.dueDate),
    ("is_open", .bool m.isOpen)]

end Milestone

namespace Label

def ofJson? (value : Json) : Option Label := do
  match ← record? ["name"] value with
  | [name] => return { name := ← required toText? name }
  | _ => none

def toJson (l : Label) : Json := Json.fields [("name", text l.name)]

end Label

namespace User

def ofJson? (value : Json) : Option User := do
  match ← record? ["login", "name"] value with
  | [login, name] =>
    return {
      login := ← required toText? login
      name := ← orDefault none (nullable toText?) name }
  | _ => none

def toJson (u : User) : Json := Json.fields [("login", text u.login), ("name", ofOption text u.name)]

end User

inductive LoadFault where
  | notText
  | notSnapshot
  deriving DecidableEq, Repr

namespace Snapshot

def fieldNames : List String := ["issues", "milestones", "current_milestone", "labels", "collaborators"]

def ofJson? (value : Json) : Option Snapshot := do
  match ← record? fieldNames value with
  | [issues, milestones, currentMilestone, labels, collaborators] =>
    return {
      issues := ← orDefault [] (toList? Issue.ofJson?) issues
      milestones := ← orDefault [] (toList? Milestone.ofJson?) milestones
      currentMilestone := ← orDefault none (nullable toUInt64?) currentMilestone
      labels := ← orDefault [] (toList? Label.ofJson?) labels
      collaborators := ← orDefault [] (toList? User.ofJson?) collaborators }
  | _ => none

def toJson (s : Snapshot) : Json :=
  Json.fields [
    ("issues", .array (s.issues.map Issue.toJson)),
    ("milestones", .array (s.milestones.map Milestone.toJson)),
    ("current_milestone", ofOption (fun index => .natural index.toNat) s.currentMilestone),
    ("labels", .array (s.labels.map Label.toJson)),
    ("collaborators", .array (s.collaborators.map User.toJson))]

def load (bytes : ByteArray) : Except LoadFault Snapshot :=
  match String.fromUTF8? bytes with
  | none => .error .notText
  | some document =>
    match (Json.read? document.toList).bind ofJson? with
    | some s => .ok s
    | none => .error .notSnapshot

end Snapshot

end Triage
