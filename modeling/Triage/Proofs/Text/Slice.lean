import Triage.Position

namespace Triage.Text

def bytes (t : Text) : List UInt8 := t.flatMap String.utf8EncodeChar

theorem byteSize_pos {t : Text} (h : t ≠ []) : 0 < t.byteSize := by
  obtain ⟨c, cs, rfl⟩ := List.exists_cons_of_ne_nil h
  have hsize := c.utf8Size_pos
  rw [byteSize_cons]
  omega

theorem bytes_append (s t : Text) : (s ++ t).bytes = s.bytes ++ t.bytes := List.flatMap_append

theorem length_bytes (t : Text) : t.bytes.length = t.byteSize := by
  induction t with
  | nil => rfl
  | cons c t ih =>
      have hcons : bytes (c :: t) = String.utf8EncodeChar c ++ bytes t := List.flatMap_cons
      rw [hcons, List.length_append, String.length_utf8EncodeChar, ih, byteSize_cons]

def splitAt? : Nat → Text → Option (Text × Text)
  | 0, t => some ([], t)
  | _ + 1, [] => none
  | n + 1, c :: cs =>
    if c.utf8Size ≤ n + 1 then (splitAt? (n + 1 - c.utf8Size) cs).map fun (before, rest) => (c :: before, rest)
    else none

theorem splitAt?_append (before rest : Text) : splitAt? before.byteSize (before ++ rest) = some (before, rest) := by
  induction before with
  | nil => cases rest <;> rfl
  | cons c before ih =>
      obtain ⟨n, hn⟩ : ∃ n, c.utf8Size + byteSize before = n + 1 :=
        Nat.exists_eq_succ_of_ne_zero (by have := c.utf8Size_pos; omega)
      have hle : c.utf8Size ≤ n + 1 := by omega
      have hrest : n + 1 - c.utf8Size = byteSize before := by omega
      rw [byteSize_cons, hn, List.cons_append, splitAt?, if_pos hle, hrest, ih]
      rfl

theorem eq_append_of_splitAt? {n : Nat} {t before rest : Text} (h : splitAt? n t = some (before, rest)) :
    t = before ++ rest ∧ before.byteSize = n := by
  induction t generalizing n before with
  | nil =>
      cases n with
      | zero =>
          cases h
          exact ⟨rfl, rfl⟩
      | succ n => cases h
  | cons c cs ih =>
      cases n with
      | zero =>
          cases h
          exact ⟨rfl, rfl⟩
      | succ n =>
          rw [splitAt?] at h
          split at h
          · next hle =>
              obtain ⟨⟨b, r⟩, hsplit, hb⟩ := Option.map_eq_some_iff.1 h
              cases hb
              obtain ⟨rfl, hsize⟩ := ih hsplit
              exact ⟨rfl, by rw [byteSize_cons]; omega⟩
          · cases h

def slice? (t : Text) (s : Span) : Option Text :=
  (splitAt? s.stop t).bind fun (before, _) => (splitAt? s.start before).map Prod.snd

theorem slice?_eq_some_iff {t inner : Text} {s : Span} :
    t.slice? s = some inner ↔
      ∃ before after, t = before ++ inner ++ after ∧ s = ⟨before.byteSize, before.byteSize + inner.byteSize⟩ := by
  constructor
  · intro h
    obtain ⟨⟨first, after⟩, hfirst, h⟩ := Option.bind_eq_some_iff.1 h
    obtain ⟨⟨before, inner'⟩, hbefore, hinner⟩ := Option.map_eq_some_iff.1 h
    obtain ⟨rfl, hstop⟩ := eq_append_of_splitAt? hfirst
    obtain ⟨rfl, hstart⟩ := eq_append_of_splitAt? hbefore
    rw [byteSize_append] at hstop
    cases hinner
    exact ⟨before, after, rfl, by rw [hstop, hstart]⟩
  · rintro ⟨before, after, rfl, rfl⟩
    rw [slice?, ← byteSize_append, splitAt?_append]
    exact congrArg (Option.map Prod.snd) (splitAt?_append before inner)

theorem slice?_trans {t first second : Text} {i j k : Nat} (h : t.slice? ⟨i, j⟩ = some first)
    (h' : t.slice? ⟨j, k⟩ = some second) : t.slice? ⟨i, k⟩ = some (first ++ second) := by
  obtain ⟨before, after, ht, hs⟩ := slice?_eq_some_iff.1 h
  obtain ⟨before', after', ht', hs'⟩ := slice?_eq_some_iff.1 h'
  obtain ⟨rfl, rfl⟩ := Span.mk.inj hs
  obtain ⟨hj, rfl⟩ := Span.mk.inj hs'
  have hfirst := splitAt?_append (before ++ first) after
  have hsecond := splitAt?_append before' (second ++ after')
  rw [byteSize_append, hj, ← ht, ht', List.append_assoc, hsecond] at hfirst
  obtain ⟨rfl, rfl⟩ := Prod.mk.inj (Option.some.inj hfirst)
  exact slice?_eq_some_iff.2 ⟨before, after', by simpa using ht', by rw [hj.symm, byteSize_append, Nat.add_assoc]⟩

theorem bytes_of_slice? {t inner : Text} {s : Span} (h : t.slice? s = some inner) :
    inner.bytes = (t.bytes.drop s.start).take (s.stop - s.start) := by
  obtain ⟨before, after, rfl, rfl⟩ := slice?_eq_some_iff.1 h
  have hstart : before.bytes.length = before.byteSize := length_bytes before
  have hinner : before.byteSize + inner.byteSize - before.byteSize = inner.bytes.length := by
    rw [length_bytes, Nat.add_sub_cancel_left]
  rw [bytes_append, bytes_append, List.append_assoc, ← hstart, List.drop_left, hstart, hinner, List.take_left]

theorem le_of_slice? {t inner : Text} {s : Span} (h : t.slice? s = some inner) :
    s.start ≤ s.stop ∧ s.stop ≤ t.byteSize := by
  obtain ⟨before, after, rfl, rfl⟩ := slice?_eq_some_iff.1 h
  simp only [byteSize_append]
  omega

theorem lt_of_slice? {t inner : Text} {s : Span} (h : t.slice? s = some inner) (hn : inner ≠ []) :
    s.start < s.stop := by
  obtain ⟨before, after, rfl, rfl⟩ := slice?_eq_some_iff.1 h
  exact Nat.lt_add_of_pos_right (byteSize_pos hn)

end Triage.Text
