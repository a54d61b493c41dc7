import Triage.Diagnostic

namespace Triage.Report

inductive Ink where
  | red
  | yellow
  | frame
  | margin
  | plain
  deriving DecidableEq, Repr

namespace Ink

def code : Ink → String
  | .red => "31"
  | .yellow => "33"
  | .frame => "38;5;246"
  | .margin => "38;5;240"
  | .plain => "38;5;249"

def ofKind : Diagnostic.Kind → Ink
  | .syntactic => red
  | .semantic => yellow

def enter (ink : Ink) : Text := '\x1b' :: '[' :: ink.code.toList ++ ['m']

def leave : Text := "\x1b[0m".toList

end Ink

structure Stroke where
  text : Text
  ink : Option Ink := none
  deriving DecidableEq, Repr

namespace Stroke

def ofChar (c : Char) (ink : Option Ink := none) : Stroke := ⟨[c], ink⟩

def blank : Stroke := ofChar ' '

def spaces (n : Nat) : Stroke := ⟨List.replicate n ' ', none⟩

def write (colored : Bool) (s : Stroke) : Text :=
  match s.ink with
  | some ink => if colored then ink.enter ++ s.text ++ Ink.leave else s.text
  | none => s.text

end Stroke

def writeRow (colored : Bool) (row : List Stroke) : Text := row.flatMap (·.write colored) ++ ['\n']

end Triage.Report
