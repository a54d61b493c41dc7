import Triage.Issue
import Triage.Text.Numeral

/-!
Relative references to milestones: `current` or `curr` names the milestone at the current place of the sequence, and a
signed number after it one so many places on or back.
-/

namespace Triage.Milestone

inductive Reference where
  | title
  | offset (places : Int)
  | malformed
  deriving DecidableEq, Repr

inductive Resolution where
  | notReference
  | resolved (index : Nat)
  | unresolved
  deriving DecidableEq, Repr

namespace Reference

/-- The longer word is tried first, so that nothing of it is left behind. -/
def words : List Text := ["current".toList, "curr".toList]

def places? (digits : Text) : Option Int :=
  ((Text.natural? digits).map Int.ofNat).filter Text.inWord

def ofTail : Text → Reference
  | [] => .offset 0
  | '+' :: digits =>
    match places? digits with
    | some n => .offset n
    | none => .malformed
  | '-' :: digits =>
    match places? digits with
    | some n => .offset (-n)
    | none => .malformed
  | _ => .title

def read (t : Text) : Reference :=
  match words.findSome? (Text.dropPrefix? · t.lowerAscii) with
  | some tail => ofTail tail
  | none => .title

/-- The place that a reference names among `count` milestones, the current one being at `current`. Places are counted
in 64 bits with a sign. -/
def resolve (count : Nat) (current : Option Nat) : Reference → Resolution
  | .title => .notReference
  | .malformed => .unresolved
  | .offset places =>
    match current with
    | none => .unresolved
    | some c =>
      let index := Int.ofNat c + places
      if Text.inWord c ∧ Text.inWord index ∧ 0 ≤ index ∧ index < count then .resolved index.toNat
      else .unresolved

end Reference

def isMalformedReference (t : Text) : Bool := Reference.read t == .malformed

def resolve (t : Text) (count : Nat) (current : Option Nat) : Resolution :=
  (Reference.read t).resolve count current

end Triage.Milestone
