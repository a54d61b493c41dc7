import Triage.Comparison
import Triage.Proofs.Text.Folding

/-!
Dates, numbers and comparisons of them are read alike in letters of any case. A reader is blind to case if in small
letters it takes as much of a text and reads the same; readers made of blind ones are blind.
-/

namespace Triage

open Text

namespace Calendar.Reader

variable {α β : Type}

def Blind (r : Reader α) : Prop :=
  ∀ t : Text, r.run t.lowerAscii = (r.run t).map fun (a, rest) => (a, lowerAscii rest)

theorem blind_pure (a : α) : Blind (pure a) := fun _ => rfl

theorem Blind.bind {r : Reader α} {next : α → Reader β} (hr : Blind r) (hnext : ∀ a, Blind (next a)) :
    Blind (r >>= next) := by
  intro t
  rw [StateT.run_bind, StateT.run_bind, hr t]
  cases r.run t with
  | none => rfl
  | some read => exact hnext read.1 read.2

theorem blind_lift (value? : Option α) : Blind (liftM value?) := by
  intro t
  cases value? <;> rfl

theorem blind_skipBlanks : Blind skipBlanks := by
  intro t
  show some ((), trimStart t.lowerAscii) = some ((), lowerAscii (trimStart t))
  rw [trimStart_lowerAscii]

theorem blind_literal {mark : Char} (h : Caseless mark) : Blind (literal mark) := by
  intro t
  cases t with
  | nil => rfl
  | cons c t =>
      have hc : (c.toLower == mark) = (c == mark) := by
        rw [Bool.eq_iff_iff, beq_iff_eq, beq_iff_eq, toLower_eq_iff h]
      show (if c.toLower == mark then some ((), lowerAscii t) else none) =
        (if c == mark then some ((), t) else none).map _
      rw [hc]
      split <;> rfl

theorem blind_digits (most : Nat) : Blind (digits most) := by
  intro t
  have hrun : lowerAscii ((t.takeWhile Char.isDigit).take most) = (t.takeWhile Char.isDigit).take most := by
    refine lowerAscii_of_digits (List.all_eq_true.2 fun c hc => ?_)
    exact List.all_eq_true.1 List.all_takeWhile c (List.mem_of_mem_take hc)
  have htake : (t.lowerAscii.takeWhile Char.isDigit).take most = (t.takeWhile Char.isDigit).take most := by
    rw [caseBlind_isDigit.takeWhile_lowerAscii, ← hrun]
    simp only [lowerAscii, List.map_take]
  show leadingDigits? most t.lowerAscii = (leadingDigits? most t).map _
  rw [leadingDigits?, leadingDigits?, htake]
  split
  · rfl
  · simp [lowerAscii, List.map_drop]

theorem blind_number (most : Nat) : Blind (number most) :=
  blind_skipBlanks.bind fun _ => (blind_digits most).bind fun _ => blind_pure _

theorem run_year (t : Text) :
    year.run t =
      match dropPrefix? ['-'] t.trimStart with
      | some rest => StateT.run (do return -Int.ofNat (digitsValue (← digits rest.length))) rest
      | none =>
        match dropPrefix? ['+'] t.trimStart with
        | some rest => StateT.run (do return Int.ofNat (digitsValue (← digits rest.length))) rest
        | none => StateT.run (do return Int.ofNat (digitsValue (← digits 4))) t.trimStart := by
  simp only [year, skipBlanks, StateT.run_bind, StateT.run_modify, StateT.run_get, pure_bind]
  split
  · next rest h =>
      rw [h]
      rfl
  · next rest h =>
      rw [h]
      rfl
  · next hminus hplus =>
      rw [dropPrefix?_eq_none hminus, dropPrefix?_eq_none hplus]
      rfl

theorem blind_year : Blind year := by
  intro t
  have hdigits (most : Nat) (value : Text → Int) : Blind (do return value (← digits most)) :=
    (blind_digits most).bind fun _ => blind_pure _
  rw [run_year, run_year, trimStart_lowerAscii, dropPrefix?_lowerAscii (by decide), dropPrefix?_lowerAscii (by decide)]
  cases dropPrefix? ['-'] t.trimStart with
  | some rest =>
      have h := hdigits rest.length (fun run => -Int.ofNat run.digitsValue) rest
      simpa only [Option.map_some, length_lowerAscii] using h
  | none =>
      cases dropPrefix? ['+'] t.trimStart with
      | some rest =>
          have h := hdigits rest.length (fun run => Int.ofNat run.digitsValue) rest
          simpa only [Option.map_none, Option.map_some, length_lowerAscii] using h
      | none => exact hdigits 4 _ _

theorem blind_date {gap : Reader Unit} (h : Blind gap) : Blind (date gap) :=
  blind_year.bind fun _ => h.bind fun _ => (blind_literal (by decide)).bind fun _ => (blind_number 2).bind fun _ =>
    h.bind fun _ => (blind_literal (by decide)).bind fun _ => (blind_number 2).bind fun _ => blind_lift _

theorem Blind.whole? {r : Reader α} (h : Blind r) (t : Text) : whole? r t.lowerAscii = whole? r t := by
  rw [Reader.whole?, Reader.whole?, h t]
  cases r.run t with
  | none => rfl
  | some read =>
      obtain ⟨a, rest⟩ := read
      cases rest <;> rfl

end Calendar.Reader

@[simp] theorem Date.read?_lowerAscii (t : Text) : Date.read? t.lowerAscii = Date.read? t := by
  rw [Date.read?, Date.read?, trim_lowerAscii, (Calendar.Reader.blind_date (Calendar.Reader.blind_pure ())).whole?]

@[simp] theorem readInteger?_lowerAscii (t : Text) : readInteger? t.lowerAscii = readInteger? t := by
  rw [readInteger?, readInteger?, trim_lowerAscii, word?_lowerAscii]

namespace Comparison

variable {α : Type} {operand : Text → Option α}

/-- The marks that may stand before an operand. One that another begins with comes after it. -/
def marks : List (Text × (α → Comparison α)) :=
  [(['>', '='], ge), (['<', '='], le), (['>'], gt), (['<'], lt)]

def readMarked? (operand : Text → Option α) (t : Text) : Option (Option (Comparison α)) :=
  marks.findSome? fun (mark, comparison) => (dropPrefix? mark t).map fun rest => (operand rest).map comparison

def readUnmarked? (operand : Text → Option α) (t : Text) : Option (Comparison α) :=
  match t.cut? "..".toList with
  | some (low, high) =>
    match operand low, operand high with
    | some l, some h => some (between l h)
    | _, _ => none
  | none => (operand t).map eq

theorem read?_eq (operand : Text → Option α) (t : Text) :
    read? operand t = (readMarked? operand t.trim).getD (readUnmarked? operand t.trim) := by
  simp only [read?, readMarked?, marks, List.findSome?_cons, List.findSome?_nil]
  split
  · next rest h => simp [h, dropPrefix?]
  · next rest h => simp [h, dropPrefix?]
  · next rest hge h =>
      have heq : dropPrefix? ['='] rest = none := dropPrefix?_eq_none hge
      simp [h, dropPrefix?, heq]
  · next rest hle h =>
      have heq : dropPrefix? ['='] rest = none := dropPrefix?_eq_none hle
      simp [h, dropPrefix?, heq]
  · next hge hle hgt hlt =>
      have hge' : dropPrefix? ['>', '='] t.trim = none := dropPrefix?_eq_none hge
      have hle' : dropPrefix? ['<', '='] t.trim = none := dropPrefix?_eq_none hle
      have hgt' : dropPrefix? ['>'] t.trim = none := dropPrefix?_eq_none hgt
      have hlt' : dropPrefix? ['<'] t.trim = none := dropPrefix?_eq_none hlt
      simp only [hge', hle', hgt', hlt']
      rfl

theorem read?_lowerAscii (h : ∀ t, operand (lowerAscii t) = operand t) (t : Text) :
    read? operand t.lowerAscii = read? operand t := by
  have hmarked (t : Text) : readMarked? operand t.lowerAscii = readMarked? operand t := by
    simp (disch := decide) only [readMarked?, marks, List.findSome?_cons, List.findSome?_nil, dropPrefix?_lowerAscii,
      Option.map_map, Function.comp_def, h]
  have hunmarked (t : Text) : readUnmarked? operand t.lowerAscii = readUnmarked? operand t := by
    rw [readUnmarked?, readUnmarked?, cut?_lowerAscii (by decide), h]
    cases t.cut? "..".toList with
    | none => rfl
    | some parts => simp only [Option.map_some, h]
  rw [read?_eq, read?_eq, trim_lowerAscii, hmarked, hunmarked]

end Comparison

@[simp] theorem DateCondition.read?_lowerAscii (t : Text) : read? t.lowerAscii = read? t := by
  simp only [DateCondition.read?, Comparison.read?_lowerAscii Date.read?_lowerAscii,
    Comparison.read?_lowerAscii readInteger?_lowerAscii]

end Triage
