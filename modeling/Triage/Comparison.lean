import Triage.Calendar.Reader

namespace Triage

inductive Comparison (α : Type) where
  | eq (v : α)
  | gt (v : α)
  | ge (v : α)
  | lt (v : α)
  | le (v : α)
  | between (low high : α)
  deriving DecidableEq, Repr

namespace Comparison

variable {α : Type}

def holds [Ord α] : Comparison α → α → Bool
  | .eq v, x => (compare x v).isEq
  | .gt v, x => (compare x v).isGT
  | .ge v, x => (compare x v).isGE
  | .lt v, x => (compare x v).isLT
  | .le v, x => (compare x v).isLE
  | .between low high, x => (compare low x).isLE && (compare x high).isLE

def operands : Comparison α → List α
  | .eq v | .gt v | .ge v | .lt v | .le v => [v]
  | .between low high => [low, high]

/-- Reads `v`, `>v`, `>=v`, `<v`, `<=v` or the range `low..high`. -/
def read? (operand : Text → Option α) (t : Text) : Option (Comparison α) :=
  match t.trim with
  | '>' :: '=' :: rest => (operand rest).map ge
  | '<' :: '=' :: rest => (operand rest).map le
  | '>' :: rest => (operand rest).map gt
  | '<' :: rest => (operand rest).map lt
  | trimmed =>
    match trimmed.cut? "..".toList with
    | some (low, high) =>
      match operand low, operand high with
      | some l, some h => some (between l h)
      | _, _ => none
    | none => (operand trimmed).map eq

end Comparison

def readInteger? (t : Text) : Option Int := Text.word? t.trim

/-- What a timestamp is compared by: its calendar date, or its age in whole hours. -/
inductive DateCondition where
  | date (c : Comparison Date)
  | age (c : Comparison Int)
  deriving DecidableEq, Repr

namespace DateCondition

def read? (t : Text) : Option DateCondition :=
  match Comparison.read? Date.read? t with
  | some c => some (.date c)
  | none => (Comparison.read? readInteger? t).map .age

def holds (now : Timestamp) : DateCondition → Timestamp → Bool
  | .date c, t => c.holds t.date
  | .age c, t => c.holds (Timestamp.hoursBetween t now)

end DateCondition

end Triage
