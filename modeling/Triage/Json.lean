import Triage.Text.Basic

namespace Triage

/-- A string is absent if its escapes name no characters, as half of a surrogate pair does. -/
inductive Json where
  | null
  | bool (b : Bool)
  | natural (n : Nat)
  | number (literal : Text)
  | string (s : Option Text)
  | array (items : List Json)
  | object (fields : List (Option Text × Json))
  deriving Repr, Nonempty

namespace Json

def text (t : Text) : Json := .string (some t)

def fields (entries : List (String × Json)) : Json :=
  .object (entries.map fun (name, value) => (some name.toList, value))

end Json

end Triage
