import Triage.Text.Basic

/-!
Closed sets of words. Each meaning has a preferred word and may have others; words are read in any case.
-/

namespace Triage

class Vocabulary (α : Type) where
  all : List α
  preferred : α → Text
  others : α → List Text := fun _ => []

namespace Vocabulary

variable {α : Type} [Vocabulary α]

def words (a : α) : List Text := preferred a :: others a

def read? (t : Text) : Option α := all.find? fun a => (words a).any (Text.sameWord t)

variable (α) in
def listing : String := ", ".intercalate ((all (α := α)).map fun a => String.ofList (preferred a))

end Vocabulary

end Triage
