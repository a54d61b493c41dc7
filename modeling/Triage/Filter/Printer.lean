import Triage.Filter
import Triage.Token.Lexer

/-!
The canonical text of a filter. Chains of one operator are written flat, because both operators group to the left;
parentheses stand only where the tree differs from what reading the flat text would build.
-/

namespace Triage

namespace Filter

def keywordName : Text := "keyword".toList

def quote (t : Text) : Text := '"' :: t ++ ['"']

/-- A keyword search is written as its content alone. Content is quoted where it would not be read back as it is. -/
def printTerm (name content : Text) : Text :=
  if name = keywordName then
    if content.isBareWord then content else quote content
  else name ++ ':' :: if content ≠ [] ∧ content.all Text.isContentChar then content else quote content

def rank : Filter → Nat
  | .disj _ _ => 0
  | .conj _ _ => 1
  | _ => 2

def parenthesiseIf (needed : Bool) (t : Text) : Text := if needed then '(' :: t ++ [')'] else t

def print : Filter → Text
  | .everything => []
  | .term name content => printTerm name content
  | .conj l r => parenthesiseIf (l.rank < 1) l.print ++ ' ' :: parenthesiseIf (r.rank < 2) r.print
  | .disj l r => l.print ++ " || ".toList ++ parenthesiseIf (r.rank < 1) r.print
  | .neg f => '~' :: parenthesiseIf (f.rank < 2) f.print

end Filter

def Refusal.message (r : Refusal) : String :=
  "filter `" ++ String.ofList r.filter.print ++ "` cannot be applied to an issue"

end Triage
