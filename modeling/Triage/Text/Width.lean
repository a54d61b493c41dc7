import Triage.Text.Basic
import Triage.Text.Width.Table

namespace Triage.Text

/-- The columns of a character. Controls count as one, and a letter that is a whole abbreviation takes three. -/
def width (c : Char) : Nat :=
  let n := c.toNat
  if n < 0x80 then 1
  else if n = 0x17D8 then 3
  else if within n Width.emptyRanges then 0
  else if within n Width.doubleRanges then 2
  else 1

end Triage.Text
