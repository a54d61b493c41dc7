import Triage.Json
import Triage.Text.Numeral

/-!
Reading JSON text. The text is cut into marks, scalars among them, and the marks are taken one by one with the arrays
and objects that are open kept in a stack.
-/

namespace Triage.Json

inductive Mark where
  | leftBrace
  | rightBrace
  | leftBracket
  | rightBracket
  | comma
  | colon
  | scalar (value : Json)

namespace Mark

def isSpace (c : Char) : Bool := c == ' ' || c == '\t' || c == '\n' || c == '\r'

inductive Part where
  | char (c : Char)
  | surrogate (n : Nat)

namespace Part

def hexValue? (c : Char) : Option Nat :=
  if '0' ≤ c ∧ c ≤ '9' then some (c.toNat - '0'.toNat)
  else if 'a' ≤ c ∧ c ≤ 'f' then some (c.toNat - 'a'.toNat + 10)
  else if 'A' ≤ c ∧ c ≤ 'F' then some (c.toNat - 'A'.toNat + 10)
  else none

def ofHex? (digits : Text) : Option Part := do
  let values ← digits.mapM hexValue?
  let n := values.foldl (fun n v => 16 * n + v) 0
  return if 0xD800 ≤ n ∧ n ≤ 0xDFFF then .surrogate n else .char (Char.ofNat n)

def ofEscape? : Char → Option Part
  | '"' => some (.char '"')
  | '\\' => some (.char '\\')
  | '/' => some (.char '/')
  | 'b' => some (.char '\x08')
  | 'f' => some (.char '\x0c')
  | 'n' => some (.char '\n')
  | 'r' => some (.char '\r')
  | 't' => some (.char '\t')
  | _ => none

def before? (part : Option Part) (others : Option (List Part × Text)) : Option (List Part × Text) :=
  part.bind fun p => others.map fun (ps, rest) => (p :: ps, rest)

def run? : Text → Option (List Part × Text)
  | [] => none
  | '"' :: rest => some ([], rest)
  | '\\' :: 'u' :: a :: b :: c :: d :: rest => before? (ofHex? [a, b, c, d]) (run? rest)
  | '\\' :: c :: rest => before? (ofEscape? c) (run? rest)
  | c :: rest => before? (if c < ' ' then none else some (.char c)) (run? rest)

/-- The characters that some parts stand for, if every surrogate has its other half. -/
def join? : List Part → Option Text
  | [] => some []
  | .char c :: parts => (join? parts).map (c :: ·)
  | .surrogate high :: .surrogate low :: parts =>
    if high < 0xDC00 ∧ 0xDC00 ≤ low then
      (join? parts).map (Char.ofNat (0x10000 + (high - 0xD800) * 0x400 + (low - 0xDC00)) :: ·)
    else none
  | .surrogate _ :: _ => none

end Part

def spanDigits (t : Text) : Text × Text := (t.takeWhile Char.isDigit, t.dropWhile Char.isDigit)

/-- Digits with no zero before others, and what follows them. -/
def whole? : Text → Option (Text × Text)
  | '0' :: cs => some (['0'], cs)
  | c :: cs => if c.isDigit then some (c :: (spanDigits cs).1, (spanDigits cs).2) else none
  | [] => none

/-- Decimal places, which may be missing but not be cut short. -/
def places? : Text → Option (Text × Text)
  | '.' :: cs => if (spanDigits cs).1 = [] then none else some ('.' :: (spanDigits cs).1, (spanDigits cs).2)
  | cs => some ([], cs)

def power? : Text → Option (Text × Text)
  | '+' :: cs => if (spanDigits cs).1 = [] then none else some ('+' :: (spanDigits cs).1, (spanDigits cs).2)
  | '-' :: cs => if (spanDigits cs).1 = [] then none else some ('-' :: (spanDigits cs).1, (spanDigits cs).2)
  | cs => if (spanDigits cs).1 = [] then none else some (spanDigits cs)

/-- An exponent, which may be missing but not be cut short. -/
def exponent? : Text → Option (Text × Text)
  | 'e' :: cs | 'E' :: cs => (power? cs).map fun (power, rest) => ('e' :: power, rest)
  | cs => some ([], cs)

def magnitude? (t : Text) : Option (Text × Text × Text) :=
  match whole? t with
  | none => none
  | some (whole, rest) =>
    match places? rest with
    | none => none
    | some (places, rest) => (exponent? rest).map fun (exponent, rest) => (whole, places ++ exponent, rest)

/-- A number, a plain natural number told apart from all others. -/
def number? : Text → Option (Json × Text)
  | '-' :: cs => (magnitude? cs).map fun (whole, more, rest) => (.number ('-' :: whole ++ more), rest)
  | cs =>
    (magnitude? cs).map fun (whole, more, rest) =>
      (if more = [] then .natural (Text.digitsValue whole) else .number (whole ++ more), rest)

def first? : Text → Option (Mark × Text)
  | '{' :: cs => some (.leftBrace, cs)
  | '}' :: cs => some (.rightBrace, cs)
  | '[' :: cs => some (.leftBracket, cs)
  | ']' :: cs => some (.rightBracket, cs)
  | ',' :: cs => some (.comma, cs)
  | ':' :: cs => some (.colon, cs)
  | '"' :: cs => (Part.run? cs).map fun (parts, rest) => (.scalar (.string (Part.join? parts)), rest)
  | 'n' :: 'u' :: 'l' :: 'l' :: cs => some (.scalar .null, cs)
  | 't' :: 'r' :: 'u' :: 'e' :: cs => some (.scalar (.bool true), cs)
  | 'f' :: 'a' :: 'l' :: 's' :: 'e' :: cs => some (.scalar (.bool false), cs)
  | cs => (number? cs).map fun (value, rest) => (.scalar value, rest)

theorem length_spanDigits (t : Text) : (spanDigits t).2.length ≤ t.length :=
  (List.dropWhile_sublist Char.isDigit).length_le

theorem exists_of_before? {part : Option Part} {others : Option (List Part × Text)} {parts : List Part} {rest : Text}
    (h : Part.before? part others = some (parts, rest)) : ∃ ps, others = some (ps, rest) := by
  obtain ⟨p, _, hp⟩ := Option.bind_eq_some_iff.1 h
  obtain ⟨⟨ps, r⟩, ho, heq⟩ := Option.map_eq_some_iff.1 hp
  simp only [Prod.mk.injEq] at heq
  exact ⟨ps, heq.2 ▸ ho⟩

theorem length_run? {t : Text} {parts : List Part} {rest : Text} (h : Part.run? t = some (parts, rest)) :
    rest.length < t.length := by
  fun_induction Part.run? t generalizing parts rest with
  | case1 => simp at h
  | case2 => simp_all
  | case3 a b c d cs ih =>
      obtain ⟨ps, hps⟩ := exists_of_before? h
      have := ih hps
      simp only [List.length_cons]
      omega
  | case4 c cs _ ih =>
      obtain ⟨ps, hps⟩ := exists_of_before? h
      have := ih hps
      simp only [List.length_cons]
      omega
  | case5 c cs _ _ _ ih =>
      obtain ⟨ps, hps⟩ := exists_of_before? h
      have := ih hps
      simp only [List.length_cons]
      omega

theorem length_whole? {t whole rest : Text} (h : whole? t = some (whole, rest)) : rest.length < t.length := by
  unfold whole? at h
  split at h
  · simp_all
  · next c cs _ =>
      have := length_spanDigits cs
      simp only [Option.ite_none_right_eq_some, Option.some.injEq, Prod.mk.injEq] at h
      obtain ⟨_, _, rfl⟩ := h
      simp only [List.length_cons]
      omega
  · simp at h

theorem length_places? {t places rest : Text} (h : places? t = some (places, rest)) : rest.length ≤ t.length := by
  unfold places? at h
  split at h
  · next cs =>
      have := length_spanDigits cs
      split at h <;> simp_all
      obtain ⟨_, rfl⟩ := h
      omega
  · simp_all

theorem length_power? {t power rest : Text} (h : power? t = some (power, rest)) : rest.length ≤ t.length := by
  have := length_spanDigits t
  unfold power? at h
  split at h
  · next cs =>
      have := length_spanDigits cs
      split at h <;> simp_all
      obtain ⟨_, rfl⟩ := h
      omega
  · next cs =>
      have := length_spanDigits cs
      split at h <;> simp_all
      obtain ⟨_, rfl⟩ := h
      omega
  · split at h <;> simp_all

theorem length_exponent? {t exponent rest : Text} (h : exponent? t = some (exponent, rest)) :
    rest.length ≤ t.length := by
  unfold exponent? at h
  split at h
  · next cs =>
      obtain ⟨⟨power, r⟩, hp, he⟩ := Option.map_eq_some_iff.1 h
      have := length_power? hp
      simp_all
      omega
  · next cs =>
      obtain ⟨⟨power, r⟩, hp, he⟩ := Option.map_eq_some_iff.1 h
      have := length_power? hp
      simp_all
      omega
  · simp_all

theorem length_magnitude? {t whole more rest : Text} (h : magnitude? t = some (whole, more, rest)) :
    rest.length < t.length := by
  unfold magnitude? at h
  split at h
  · simp at h
  · next hw =>
      split at h
      · simp at h
      · next hp =>
          obtain ⟨⟨exponent, r⟩, he, heq⟩ := Option.map_eq_some_iff.1 h
          have := length_whole? hw
          have := length_places? hp
          have := length_exponent? he
          simp_all
          omega

theorem length_number? {t : Text} {value : Json} {rest : Text} (h : number? t = some (value, rest)) :
    rest.length < t.length := by
  unfold number? at h
  split at h
  · obtain ⟨⟨whole, more, r⟩, hm, heq⟩ := Option.map_eq_some_iff.1 h
    have := length_magnitude? hm
    simp_all
    omega
  · obtain ⟨⟨whole, more, r⟩, hm, heq⟩ := Option.map_eq_some_iff.1 h
    have := length_magnitude? hm
    simp_all

theorem length_first? {t : Text} {mark : Mark} {rest : Text} (h : first? t = some (mark, rest)) :
    rest.length < t.length := by
  unfold first? at h
  split at h
  case h_7 =>
    obtain ⟨⟨parts, r⟩, hr, heq⟩ := Option.map_eq_some_iff.1 h
    have := length_run? hr
    simp_all
    omega
  case h_11 =>
    obtain ⟨⟨value, r⟩, hn, heq⟩ := Option.map_eq_some_iff.1 h
    have := length_number? hn
    simp_all
  all_goals
    simp only [Option.some.injEq, Prod.mk.injEq] at h
    simp only [← h.2, List.length_cons]
    omega

def all? (t : Text) : Option (List Mark) :=
  match t with
  | [] => some []
  | c :: cs =>
    if isSpace c then all? cs
    else
      match _h : first? (c :: cs) with
      | none => none
      | some (mark, rest) => (all? rest).map (mark :: ·)
termination_by t.length
decreasing_by
  · simp
  · exact length_first? _h

end Mark

/-- An array or an object that is open, with what stands in it, the last first. -/
inductive Frame where
  | array (items : List Json)
  | object (fields : List (Option Text × Json)) (key : Option Text)

inductive Pending where
  | value (frames : List Frame)
  /-- An item, or the end of the array that was just opened. -/
  | item (frames : List Frame)
  /-- A key, or the end of the object if none was announced by a comma. -/
  | key (fields : List (Option Text × Json)) (mayEnd : Bool) (frames : List Frame)
  | colon (fields : List (Option Text × Json)) (key : Option Text) (frames : List Frame)
  | tail (value : Json) (frames : List Frame)

namespace Pending

def begin? (frames : List Frame) : Mark → Option Pending
  | .leftBracket => some (.item frames)
  | .leftBrace => some (.key [] true frames)
  | .scalar v => some (.tail v frames)
  | _ => none

def next? : Pending → Mark → Option Pending
  | .value frames, mark => begin? frames mark
  | .item frames, .rightBracket => some (.tail (.array []) frames)
  | .item frames, mark => begin? (.array [] :: frames) mark
  | .key fields true frames, .rightBrace => some (.tail (.object fields.reverse) frames)
  | .key fields _ frames, .scalar (.string k) => some (.colon fields k frames)
  | .colon fields k frames, .colon => some (.value (.object fields k :: frames))
  | .tail v (.array items :: frames), .comma => some (.value (.array (v :: items) :: frames))
  | .tail v (.array items :: frames), .rightBracket => some (.tail (.array (v :: items).reverse) frames)
  | .tail v (.object fields k :: frames), .comma => some (.key ((k, v) :: fields) false frames)
  | .tail v (.object fields k :: frames), .rightBrace =>
    some (.tail (.object ((k, v) :: fields).reverse) frames)
  | _, _ => none

def complete? : Pending → Option Json
  | .tail v [] => some v
  | _ => none

end Pending

def read? (t : Text) : Option Json := do
  let marks ← Mark.all? t
  let pending ← marks.foldlM Pending.next? (.value [])
  pending.complete?

end Triage.Json
