import Triage.Text.Basic

namespace Triage.Text

def digitValue (c : Char) : Nat := c.toNat - '0'.toNat

def digitsValue (t : Text) : Nat := t.foldl (fun n c => 10 * n + digitValue c) 0

def natural? (t : Text) : Option Nat :=
  if t ≠ [] ∧ t.all Char.isDigit then some (digitsValue t) else none

def unsigned? : Text → Option Nat
  | '+' :: t => natural? t
  | t => natural? t

def integer? : Text → Option Int
  | '+' :: t => (natural? t).map Int.ofNat
  | '-' :: t => (natural? t).map fun n => -Int.ofNat n
  | t => (natural? t).map Int.ofNat

def inWord (n : Int) : Bool := -9223372036854775808 ≤ n && n < 9223372036854775808

def word? (t : Text) : Option Int := (integer? t).filter inWord

def leadingDigits? (most : Nat) (t : Text) : Option (Text × Text) :=
  let run := (t.takeWhile Char.isDigit).take most
  if run = [] then none else some (run, t.drop run.length)

def ofNat (n : Nat) : Text := Nat.toDigits 10 n

def ofNatPadded (width n : Nat) : Text :=
  let digits := ofNat n
  List.replicate (width - digits.length) '0' ++ digits

def ofInt : Int → Text
  | .ofNat n => ofNat n
  | .negSucc n => '-' :: ofNat (n + 1)

def padRight (width : Nat) (t : Text) : Text := t ++ List.replicate (width - t.length) ' '

def padLeft (width : Nat) (t : Text) : Text := List.replicate (width - t.length) ' ' ++ t

end Triage.Text
