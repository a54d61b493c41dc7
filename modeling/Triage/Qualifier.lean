import Triage.Vocabulary

namespace Triage

inductive Qualifier where
  | id
  | keyword
  | title
  | body
  | milestone
  | label
  | assignee
  | author
  | involves
  | state
  | type
  | is
  | has
  | no
  | created
  | updated
  | sort
  | count
  deriving DecidableEq, Repr

instance : Vocabulary Qualifier where
  all := [.id, .keyword, .title, .body, .milestone, .label, .assignee, .author, .involves, .state, .type, .is, .has,
    .no, .created, .updated, .sort, .count]
  preferred
    | .id => "id".toList
    | .keyword => "keyword".toList
    | .title => "title".toList
    | .body => "body".toList
    | .milestone => "milestone".toList
    | .label => "label".toList
    | .assignee => "assignee".toList
    | .author => "author".toList
    | .involves => "involves".toList
    | .state => "state".toList
    | .type => "type".toList
    | .is => "is".toList
    | .has => "has".toList
    | .no => "no".toList
    | .created => "created".toList
    | .updated => "updated".toList
    | .sort => "sort".toList
    | .count => "count".toList
  others
    | .body => ["desc".toList, "description".toList]
    | .milestone => ["milestones".toList]
    | .label => ["labels".toList]
    | .assignee => ["assignees".toList, "as".toList]
    | .author => ["creator".toList]
    | .involves => ["user".toList]
    | _ => []

inductive State where
  | opened
  | closed
  deriving DecidableEq, Repr

instance : Vocabulary State where
  all := [.opened, .closed]
  preferred
    | .opened => "open".toList
    | .closed => "closed".toList

inductive Nature where
  | issue
  | pullRequest
  deriving DecidableEq, Repr

instance : Vocabulary Nature where
  all := [.issue, .pullRequest]
  preferred
    | .issue => "issue".toList
    | .pullRequest => "pr".toList
  others
    | .issue => []
    | .pullRequest => ["pullrequest".toList]

inductive Aspect where
  | opened
  | closed
  | issue
  | pullRequest
  | merged
  | unmerged
  deriving DecidableEq, Repr

instance : Vocabulary Aspect where
  all := [.opened, .closed, .issue, .pullRequest, .merged, .unmerged]
  preferred
    | .opened => "open".toList
    | .closed => "closed".toList
    | .issue => "issue".toList
    | .pullRequest => "pr".toList
    | .merged => "merged".toList
    | .unmerged => "unmerged".toList
  others
    | .pullRequest => ["pullrequest".toList]
    | _ => []

inductive Attribute where
  | label
  | milestone
  | assignee
  deriving DecidableEq, Repr

instance : Vocabulary Attribute where
  all := [.label, .milestone, .assignee]
  preferred
    | .label => "label".toList
    | .milestone => "milestone".toList
    | .assignee => "assignee".toList

inductive ContentType where
  | integer
  | integerComparison
  | dateComparison
  | state
  | nature
  | aspect
  | attribute
  | sortKeys
  | milestone
  | identifier
  | text
  deriving DecidableEq, Repr

def ContentType.describe : ContentType → String
  | .integer => "an integer"
  | .integerComparison => "a number, comparison or range such as '>5' or '2..7'"
  | .dateComparison => "a date (YYYY-MM-DD), date comparison, date range or age in hours"
  | .state => "one of " ++ Vocabulary.listing State
  | .nature => "one of " ++ Vocabulary.listing Nature
  | .aspect => "one of " ++ Vocabulary.listing Aspect
  | .attribute => "one of " ++ Vocabulary.listing Attribute
  | .sortKeys => "comma-separated sort keys"
  | .milestone => "a milestone title or current[+N|-N]"
  | .identifier => "a name"
  | .text => "text"

namespace Qualifier

def ofName? (name : Text) : Option Qualifier := Vocabulary.read? name

def name (q : Qualifier) : Text := Vocabulary.preferred q

def contentType : Qualifier → ContentType
  | .id => .integerComparison
  | .count => .integer
  | .created | .updated => .dateComparison
  | .state => .state
  | .type => .nature
  | .is => .aspect
  | .has | .no => .attribute
  | .sort => .sortKeys
  | .milestone => .milestone
  | .label | .assignee | .author | .involves => .identifier
  | .keyword | .title | .body => .text

end Qualifier

end Triage
