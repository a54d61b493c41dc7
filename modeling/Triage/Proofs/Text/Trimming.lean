import Mathlib.Data.List.DropRight
import Triage.Text.Basic

namespace Triage.Text

theorem trimStart_cons {c : Char} (h : isBlank c = false) (t : Text) : trimStart (c :: t) = c :: t := by
  rw [trimStart, List.dropWhile_cons_of_neg (by simp [h])]

theorem trimEnd_cons (c : Char) (t : Text) :
    trimEnd (c :: t) = if isBlank c ∧ trimEnd t = [] then [] else c :: trimEnd t := by
  rw [trimEnd, trimEnd, List.reverse_cons, List.dropWhile_append]
  by_cases ht : t.reverse.dropWhile isBlank = []
  · by_cases hc : isBlank c <;> simp [ht, hc]
  · simp [ht]

theorem trimEnd_cons_of_not_isBlank {c : Char} (hc : isBlank c = false) (t : Text) :
    trimEnd (c :: t) = c :: trimEnd t := by
  simp [trimEnd_cons, hc]

theorem trim_cons_of_not_isBlank {c : Char} (hc : isBlank c = false) (t : Text) : trim (c :: t) = c :: trimEnd t := by
  rw [trim, trimStart_cons hc, trimEnd_cons_of_not_isBlank hc]

theorem trimEnd_trimEnd (t : Text) : trimEnd (trimEnd t) = trimEnd t := by
  induction t with
  | nil => rfl
  | cons c t ih =>
      rw [trimEnd_cons]
      split
      · rfl
      · next h => rw [trimEnd_cons, ih, if_neg h]

theorem trim_trimEnd (t : Text) : trim (trimEnd t) = trim t := by
  induction t with
  | nil => rfl
  | cons c t ih =>
      by_cases hc : isBlank c
      · have hskip (s : Text) : trim (c :: s) = trim s := by
          rw [trim, trimStart, List.dropWhile_cons_of_pos hc]
          rfl
        rw [trimEnd_cons, hskip t, ← ih]
        split
        · next h => rw [h.2]
        · exact hskip (trimEnd t)
      · have hc : isBlank c = false := by simpa using hc
        rw [trimEnd_cons_of_not_isBlank hc, trim_cons_of_not_isBlank hc, trim_cons_of_not_isBlank hc, trimEnd_trimEnd]

theorem trim_trimStart (t : Text) : trim (trimStart t) = trim t := by
  rw [trim, trim, trimStart, trimStart, List.dropWhile_idempotent]

theorem trim_trim (t : Text) : trim (trim t) = trim t :=
  (trim_trimEnd (trimStart t)).trans (trim_trimStart t)

theorem trimStart_append_cons {c : Char} (hc : isBlank c = false) (s t : Text) :
    trimStart (s ++ c :: t) = trimStart s ++ c :: t := by
  rw [trimStart, trimStart, List.dropWhile_append]
  split
  · next h => rw [List.isEmpty_iff.1 h, List.nil_append, List.dropWhile_cons_of_neg (by simp [hc])]
  · rfl

theorem trimEnd_append_cons {c : Char} (hc : isBlank c = false) (s t : Text) :
    trimEnd (s ++ c :: t) = s ++ c :: trimEnd t := by
  have hstart := trimStart_append_cons hc t.reverse s.reverse
  rw [trimStart, trimStart] at hstart
  simp [trimEnd, hstart]

theorem isBlank_or_mem_trim {t : Text} {c : Char} (h : c ∈ t) : isBlank c ∨ c ∈ t.trim := by
  have hcut {s : Text} (hs : c ∈ s) : isBlank c ∨ c ∈ s.dropWhile isBlank := by
    rw [← List.takeWhile_append_dropWhile (p := isBlank) (l := s)] at hs
    exact (List.mem_append.1 hs).imp_left (List.all_eq_true.1 List.all_takeWhile c)
  rcases hcut h with hblank | hstart
  · exact .inl hblank
  · exact (hcut (List.mem_reverse.2 hstart)).imp_right List.mem_reverse.2

theorem trim_of_not_isBlank {t : Text} (h : ∀ c ∈ t, isBlank c = false) : trim t = t := by
  have huncut {s : Text} (hs : ∀ c ∈ s, isBlank c = false) : s.dropWhile isBlank = s := by
    cases s with
    | nil => rfl
    | cons c s => exact List.dropWhile_cons_of_neg (by simp [hs c List.mem_cons_self])
  have hreverse : ∀ c ∈ t.reverse, isBlank c = false := fun c hc => h c (List.mem_reverse.1 hc)
  rw [trim, trimStart, huncut h, trimEnd, huncut hreverse, List.reverse_reverse]

def Spaced (t inner : Text) : Prop :=
  ∃ before after, before.all isBlank ∧ after.all isBlank ∧ t = before ++ inner ++ after

theorem trimEnd_append_blanks (t : Text) {after : Text} (h : after.all isBlank) : trimEnd (t ++ after) = trimEnd t := by
  rw [← List.all_reverse, List.all_eq_true] at h
  rw [trimEnd, trimEnd, List.reverse_append, List.dropWhile_append_of_pos h]

theorem Spaced.trim_eq {t inner : Text} (h : t.Spaced inner) : trim t = trim inner := by
  obtain ⟨before, after, hbefore, hafter, rfl⟩ := h
  have hstart : trimStart (before ++ (inner ++ after)) = trimStart (inner ++ after) :=
    List.dropWhile_append_of_pos (List.all_eq_true.1 hbefore)
  calc trim (before ++ inner ++ after)
      _ = trim (inner ++ after) := by rw [List.append_assoc, trim, hstart, trim]
      _ = trim (trimEnd inner) := by rw [← trim_trimEnd, trimEnd_append_blanks inner hafter]
      _ = trim inner := trim_trimEnd inner

theorem spaced_trim (t : Text) : t.Spaced t.trim := by
  refine ⟨t.takeWhile isBlank, (t.trimStart.reverse.takeWhile isBlank).reverse, List.all_takeWhile, ?_, ?_⟩
  · rw [List.all_reverse]
    exact List.all_takeWhile
  · rw [trim, trimEnd, List.append_assoc, ← List.reverse_append, List.takeWhile_append_dropWhile, List.reverse_reverse]
    exact List.takeWhile_append_dropWhile.symm

def Loose {α : Type} (writes : α → Text → Prop) (v : α) (t : Text) : Prop := ∃ inner, writes v inner ∧ t.Spaced inner

theorem loose_of_writes {α : Type} {writes : α → Text → Prop} {v : α} {t : Text} (h : writes v t) : Loose writes v t :=
  ⟨t, h, [], [], rfl, rfl, by simp⟩

end Triage.Text
