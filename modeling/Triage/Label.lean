import Triage.Text.Casing

/-!
Labels and their groups. The name `group.name` puts a label into an exclusive group, of which an issue carries at most
one label; the name `group-name` puts it into a group without that restriction.
-/

namespace Triage

structure Label where
  name : Text
  deriving DecidableEq, Repr

namespace Label

structure Parts where
  group : Option Text
  shortName : Text
  exclusive : Bool
  deriving DecidableEq, Repr

/-- The parts of a label's name: a dot comes before a hyphen in deciding the group. -/
def parts (name : Text) : Parts :=
  match name.cut? ['.'] with
  | some (group, short) => ⟨some group, short, true⟩
  | none =>
    match name.cut? ['-'] with
    | some (group, short) => ⟨some group, short, false⟩
    | none => ⟨none, name, false⟩

def group (l : Label) : Option Text := (parts l.name).group

def shortName (l : Label) : Text := (parts l.name).shortName

def isExclusive (l : Label) : Bool := (parts l.name).exclusive

def exclusiveGroup? (name : Text) : Option Text :=
  let p := parts name
  if p.exclusive then p.group else none

/-- Whether a label's name answers to a pattern in lower case: `group.` for any label of the group, `group.name` for
those of the group whose short name contains `name`, and a plain word for the whole name, the group or a piece of the
short name. -/
def answers (name pattern : Text) : Bool :=
  let name := name.lower
  let p := parts name
  match pattern.cut? ['.'] with
  | some (group, short) => p.group == some group && short.occursIn p.shortName
  | none => name == pattern || p.group == some pattern || pattern.occursIn p.shortName

end Label

end Triage
