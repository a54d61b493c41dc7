import Triage.Text.Basic
import Triage.Text.Casing.Table

/-!
Lower case for every script. Each character goes to its own lower-case form, with one exception that looks at its
surroundings: a capital sigma at the end of a word becomes the final form.
-/

namespace Triage.Text

namespace Casing

def isCased (c : Char) : Bool := within c.toNat casedRanges

def isIgnorable (c : Char) : Bool := within c.toNat ignorableRanges

def lowerChar (c : Char) : Text :=
  if c.toNat < 0x80 then [c.toLower]
  else if c = 'İ' then ['i', '\u0307']
  else
    match lowerRuns.find? (·.covers c.toNat) with
    | some run => [Char.ofNat (c.toNat + run.shift).toNat]
    | none => [c]

def casedFollows (t : Text) : Bool :=
  match t.dropWhile isIgnorable with
  | [] => false
  | c :: _ => isCased c

/-- Lower case of a text that stands after a cased character (ignorable ones between them left out) or not. -/
def lowerFrom (afterCased : Bool) : Text → Text
  | [] => []
  | c :: cs =>
    let lowered :=
      if c = 'Σ' then [if afterCased && !casedFollows cs then 'ς' else 'σ'] else lowerChar c
    lowered ++ lowerFrom (if isIgnorable c then afterCased else isCased c) cs

end Casing

def lower (t : Text) : Text := Casing.lowerFrom false t

end Triage.Text
