import Triage.Text.Basic

/-!
Places in a text. An offset counts bytes of UTF-8 from zero, lines and columns count from one, and columns count
characters.
-/

namespace Triage

structure Span where
  start : Nat
  stop : Nat
  deriving DecidableEq, Repr

structure Position where
  offset : Nat
  line : Nat
  column : Nat
  deriving DecidableEq, Repr

namespace Position

def origin : Position := ⟨0, 1, 1⟩

def advance (p : Position) (c : Char) : Position :=
  if c = '\n' then ⟨p.offset + c.utf8Size, p.line + 1, 1⟩
  else ⟨p.offset + c.utf8Size, p.line, p.column + 1⟩

def advanceOver (p : Position) (t : Text) : Position := t.foldl advance p

@[simp] theorem advanceOver_nil (p : Position) : p.advanceOver [] = p := rfl

@[simp] theorem advanceOver_cons (p : Position) (c : Char) (t : Text) :
    p.advanceOver (c :: t) = (p.advance c).advanceOver t := rfl

theorem advanceOver_append (p : Position) (s t : Text) :
    p.advanceOver (s ++ t) = (p.advanceOver s).advanceOver t := by
  simp [advanceOver]

@[simp] theorem offset_advance (p : Position) (c : Char) : (p.advance c).offset = p.offset + c.utf8Size := by
  unfold advance; split <;> rfl

theorem offset_advanceOver (p : Position) (t : Text) : (p.advanceOver t).offset = p.offset + t.byteSize := by
  induction t generalizing p with
  | nil => simp
  | cons c cs ih => simp [ih, Nat.add_assoc]

end Position

end Triage
