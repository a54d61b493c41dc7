namespace Triage

abbrev Text := List Char

namespace Text

/-- The characters with the property `White_Space`. -/
def isBlank (c : Char) : Bool :=
  let n := c.toNat
  (9 ≤ n && n ≤ 13) || n == 0x20 || n == 0x85 || n == 0xA0 || n == 0x1680 || (0x2000 ≤ n && n ≤ 0x200A) ||
    n == 0x2028 || n == 0x2029 || n == 0x202F || n == 0x205F || n == 0x3000

/-- The control characters: the general category `Cc`. -/
def isControl (c : Char) : Bool :=
  c.toNat < 0x20 || (0x7F ≤ c.toNat && c.toNat ≤ 0x9F)

def trimStart (t : Text) : Text := t.dropWhile isBlank

def trimEnd (t : Text) : Text := (t.reverse.dropWhile isBlank).reverse

def trim (t : Text) : Text := (trimStart t).trimEnd

/-- Whether a number lies in one of some ranges, which ascend. -/
def within (n : Nat) : List (Nat × Nat) → Bool
  | [] => false
  | (first, last) :: ranges => first ≤ n && (n ≤ last || within n ranges)

def byteSize : Text → Nat
  | [] => 0
  | c :: t => c.utf8Size + byteSize t

@[simp] theorem byteSize_nil : byteSize [] = 0 := rfl

@[simp] theorem byteSize_cons (c : Char) (t : Text) : byteSize (c :: t) = c.utf8Size + byteSize t := rfl

@[simp] theorem byteSize_append (s t : Text) : byteSize (s ++ t) = byteSize s + byteSize t := by
  induction s with
  | nil => simp
  | cons c s ih => rw [List.cons_append, byteSize_cons, byteSize_cons, ih, Nat.add_assoc]

def dropPrefix? : (start t : Text) → Option Text
  | [], t => some t
  | _ :: _, [] => none
  | p :: ps, c :: cs => if p = c then dropPrefix? ps cs else none

theorem dropPrefix?_eq_some_iff {start t rest : Text} :
    dropPrefix? start t = some rest ↔ t = start ++ rest := by
  induction start generalizing t with
  | nil => simp [dropPrefix?]
  | cons p ps ih =>
      cases t with
      | nil => simp [dropPrefix?]
      | cons c cs => by_cases h : p = c <;> simp [dropPrefix?, h, ih, eq_comm]

def cut? : (t sep : Text) → Option (Text × Text)
  | [], sep => if sep = [] then some ([], []) else none
  | c :: cs, sep =>
    match dropPrefix? sep (c :: cs) with
    | some rest => some ([], rest)
    | none => (cut? cs sep).map fun (before, rest) => (c :: before, rest)

theorem eq_append_of_cut? {t sep before rest : Text} (h : cut? t sep = some (before, rest)) :
    t = before ++ sep ++ rest := by
  induction t generalizing before with
  | nil =>
      by_cases hs : sep = []
      · simp_all [cut?]
      · simp [cut?, hs] at h
  | cons c cs ih =>
      rw [cut?] at h
      split at h
      · next r hr =>
          obtain ⟨rfl, rfl⟩ : [] = before ∧ r = rest := by simpa using h
          simpa using dropPrefix?_eq_some_iff.1 hr
      · obtain ⟨⟨b, r⟩, hcut, hb⟩ := Option.map_eq_some_iff.1 h
        obtain ⟨rfl, rfl⟩ : c :: b = before ∧ r = rest := by simpa using hb
        simp [ih hcut]

def fields (sep : Char) : Text → List Text
  | [] => [[]]
  | c :: cs =>
    if c = sep then [] :: fields sep cs
    else
      match fields sep cs with
      | [] => [[c]]
      | f :: fs => (c :: f) :: fs

/-- The lines of a text: what line feeds end, without the line feed and a carriage return before it. What follows the
last line feed is a line if it is not empty. -/
def lines : Text → List Text
  | [] => []
  | '\n' :: cs => [] :: lines cs
  | '\r' :: '\n' :: cs => [] :: lines cs
  | c :: cs =>
    match lines cs with
    | [] => [[c]]
    | l :: ls => (c :: l) :: ls

def occursIn (needle : Text) : Text → Bool
  | [] => needle.isEmpty
  | c :: cs => needle.isPrefixOf (c :: cs) || needle.occursIn cs

theorem occursIn_iff {needle t : Text} : needle.occursIn t ↔ needle <:+: t := by
  induction t with
  | nil => simp [occursIn]
  | cons c cs ih => rw [occursIn, Bool.or_eq_true, List.isPrefixOf_iff_prefix, ih, List.infix_cons_iff]

def lowerAscii (t : Text) : Text := t.map Char.toLower

def sameWord (s t : Text) : Bool := lowerAscii s == lowerAscii t

@[simp] theorem sameWord_refl (t : Text) : sameWord t t := by simp [sameWord]

end Text

end Triage
