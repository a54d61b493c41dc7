import Mathlib.Logic.Basic
import Triage.Proofs.Text.Folding

/-!
Lower case of a piece of a text. Only the capital sigma looks at what stands around it, and so a piece has the same
lower case in a text as alone, unless one of its sigmas ends a word in one of them and not in the other. Marks such as
the dot are as they were.
-/

namespace Triage.Text

namespace Casing

theorem casedFollows_append (s t : Text) :
    casedFollows (s ++ t) = if s.all isIgnorable then casedFollows t else casedFollows s := by
  induction s with
  | nil => rfl
  | cons c s ih =>
      rw [List.cons_append, casedFollows_cons, casedFollows_cons, ih, List.all_cons]
      by_cases hc : isIgnorable c
      · simp [hc]
      · simp [hc]

theorem casedFollows_of_ignorable {t : Text} (h : t.all isIgnorable) : casedFollows t = false := by
  have happend := casedFollows_append t []
  rwa [List.append_nil, if_pos h] at happend

def IsMark (mark : Char) : Prop := Caseless mark ∧ 0 < mark.toNat ∧ mark.toNat < 0x61

theorem lt_add_shift : ∀ run ∈ lowerRuns, (0x60 : Int) < run.first + run.shift := by decide +kernel

theorem toNat_ofNat_eq_zero_or_lt {n : Nat} (h : 0x60 < n) :
    (Char.ofNat n).toNat = 0 ∨ 0x60 < (Char.ofNat n).toNat := by
  by_cases hvalid : n.isValidChar
  · rw [Char.ofNat, dif_pos hvalid]
    exact .inr h
  · rw [Char.ofNat, dif_neg hvalid]
    exact .inl rfl

theorem IsMark.ne_ofNat {mark : Char} (h : IsMark mark) {n : Nat} (hn : 0x60 < n) : mark ≠ Char.ofNat n := by
  rintro rfl
  obtain ⟨-, hpos, hlt⟩ := h
  rcases toNat_ofNat_eq_zero_or_lt hn with hzero | hafter <;> omega

theorem IsMark.mem_lowerChar_iff {mark c : Char} (h : IsMark mark) : mark ∈ lowerChar c ↔ mark = c := by
  rw [lowerChar]
  split
  · rw [List.mem_singleton, eq_comm, toLower_eq_iff h.1, eq_comm]
  · next hascii =>
      have hne : mark ≠ c := by
        rintro rfl
        exact hascii (Nat.lt_trans h.2.2 (by decide))
      refine iff_of_false ?_ hne
      split
      · simpa using ⟨h.ne_ofNat (n := 'i'.toNat) (by decide), h.ne_ofNat (n := '\u0307'.toNat) (by decide)⟩
      · split
        · next run hrun =>
            have hcovers := List.find?_some hrun
            have hshift := lt_add_shift run (List.mem_of_find?_eq_some hrun)
            simp only [Run.covers, Bool.and_eq_true, decide_eq_true_eq] at hcovers
            rw [List.mem_singleton]
            exact h.ne_ofNat (by omega)
        · rwa [List.mem_singleton]

theorem IsMark.mem_lowerFrom_iff {mark : Char} (h : IsMark mark) (flag : Bool) (t : Text) :
    mark ∈ lowerFrom flag t ↔ mark ∈ t := by
  induction t generalizing flag with
  | nil => rfl
  | cons c cs ih =>
      rw [lowerFrom, List.mem_append, List.mem_cons, ih]
      refine or_congr_left ?_
      split
      · next hsigma =>
          have hne : mark ≠ c := hsigma ▸ h.ne_ofNat (n := 0x3A3) (by decide)
          refine iff_of_false ?_ hne
          rw [List.mem_singleton]
          split
          · exact h.ne_ofNat (n := 0x3C2) (by decide)
          · exact h.ne_ofNat (n := 0x3C3) (by decide)
      · exact h.mem_lowerChar_iff

/-- Whether a word ends between two texts: a cased character stands before and none after, ignorable ones left out. -/
def endsWord (before after : Text) : Bool := casedFollows before.reverse && !casedFollows after

def lowerBetween (before : Text) (c : Char) (after : Text) : Text :=
  if c = 'Σ' then [if endsWord before after then 'ς' else 'σ'] else lowerChar c

def lowerAmid (before : Text) : (t after : Text) → Text
  | [], _ => []
  | c :: cs, after => lowerBetween before c (cs ++ after) ++ lowerAmid (before ++ [c]) cs after

theorem lowerFrom_eq_lowerAmid (before t : Text) :
    lowerFrom (casedFollows before.reverse) t = lowerAmid before t [] := by
  induction t generalizing before with
  | nil => rfl
  | cons c cs ih =>
      have hflag : (if isIgnorable c then casedFollows before.reverse else isCased c) =
          casedFollows (before ++ [c]).reverse := by
        rw [List.reverse_append, List.reverse_singleton, List.singleton_append, casedFollows_cons]
      rw [lowerFrom, lowerAmid, List.append_nil, hflag, ih]
      rfl

theorem lowerAmid_append (before s t after : Text) :
    lowerAmid before (s ++ t) after = lowerAmid before s (t ++ after) ++ lowerAmid (before ++ s) t after := by
  induction s generalizing before with
  | nil => simp [lowerAmid]
  | cons c s ih =>
      rw [List.cons_append, lowerAmid, lowerAmid, ih, List.append_assoc, List.append_assoc, List.append_assoc,
        List.singleton_append]

theorem length_lowerBetween (before before' : Text) (c : Char) (after after' : Text) :
    (lowerBetween before c after).length = (lowerBetween before' c after').length := by
  by_cases hc : c = 'Σ' <;> simp [lowerBetween, hc]

theorem length_lowerAmid (before before' t after after' : Text) :
    (lowerAmid before t after).length = (lowerAmid before' t after').length := by
  induction t generalizing before before' with
  | nil => rfl
  | cons c cs ih =>
      rw [lowerAmid, lowerAmid, List.length_append, List.length_append, ih,
        length_lowerBetween before before' c (cs ++ after) (cs ++ after')]

theorem lowerBetween_eq_iff {before before' after after' : Text} {c : Char} :
    lowerBetween before c after = lowerBetween before' c after' ↔
      (c = 'Σ' → endsWord before after = endsWord before' after') := by
  by_cases hc : c = 'Σ'
  · simp only [lowerBetween, hc, if_true, true_implies, List.cons.injEq, and_true]
    cases endsWord before after <;> cases endsWord before' after' <;> decide
  · simp [lowerBetween, hc]

theorem lowerAmid_eq_iff {before before' t after after' : Text} :
    lowerAmid before t after = lowerAmid before' t after' ↔
      ∀ p q, t = p ++ 'Σ' :: q → endsWord (before ++ p) (q ++ after) = endsWord (before' ++ p) (q ++ after') := by
  induction t generalizing before before' with
  | nil => simp [lowerAmid]
  | cons c cs ih =>
      rw [lowerAmid, lowerAmid, List.append_eq_append_iff_of_size_eq_left (length_lowerBetween ..), lowerBetween_eq_iff,
        ih]
      constructor
      · rintro ⟨hc, hcs⟩ p q h
        cases p with
        | nil =>
            obtain ⟨rfl, rfl⟩ := List.cons.inj h
            simpa using hc rfl
        | cons d p =>
            obtain ⟨rfl, rfl⟩ := List.cons.inj h
            simpa using hcs p q rfl
      · intro h
        refine ⟨?_, fun p q hcs => ?_⟩
        · rintro rfl
          simpa using h [] cs rfl
        · simpa using h (c :: p) q (by rw [hcs]; rfl)

end Casing

open Casing

theorem lower_eq_lowerAmid (t : Text) : t.lower = lowerAmid [] t [] := lowerFrom_eq_lowerAmid [] t

theorem mem_lower_iff {mark : Char} (h : IsMark mark) (t : Text) : mark ∈ t.lower ↔ mark ∈ t :=
  h.mem_lowerFrom_iff false t

theorem lower_append (s t : Text) : (s ++ t).lower = lowerAmid [] s t ++ lowerAmid s t [] := by
  rw [lower_eq_lowerAmid, lowerAmid_append, List.append_nil, List.nil_append]

def KeepsSigmas (piece before after : Text) : Prop :=
  ∀ p q, piece = p ++ 'Σ' :: q → endsWord (before ++ p) (q ++ after) = endsWord p q

theorem keepsSigmas_iff {piece before after : Text} :
    piece.KeepsSigmas before after ↔ lowerAmid before piece after = piece.lower := by
  rw [lower_eq_lowerAmid, lowerAmid_eq_iff, KeepsSigmas]
  simp only [List.nil_append, List.append_nil]

theorem lowerAmid_ne {piece before after p q : Text} (hpiece : piece = p ++ 'Σ' :: q)
    (h : endsWord (before ++ p) (q ++ after) ≠ endsWord p q) : lowerAmid before piece after ≠ piece.lower :=
  fun heq => h (keepsSigmas_iff.2 heq p q hpiece)

def StandsAlike (piece t : Text) : Prop :=
  ∃ before after, t = before ++ piece ++ after ∧ piece.KeepsSigmas before after

theorem StandsAlike.infix_lower {piece t : Text} (h : piece.StandsAlike t) : piece.lower <:+: t.lower := by
  obtain ⟨before, after, rfl, hkeeps⟩ := h
  rw [lower_append, lowerAmid_append, List.nil_append, keepsSigmas_iff.1 hkeeps]
  exact List.infix_append _ _ _

def Settled (piece : Text) : Prop := ∀ before after, piece.KeepsSigmas before after

theorem settled_of_not_mem {piece : Text} (h : 'Σ' ∉ piece) : piece.Settled := by
  rintro before after p q rfl
  exact absurd (List.mem_append_right p List.mem_cons_self) h

theorem exists_letter (c? : Option Char) :
    ∃ x : Char, c? ≠ some x ∧ casedFollows [x] ∧ ∀ before after, lowerAmid before [x] after = [x] := by
  by_cases h : c? = some 'a'
  · exact ⟨'b', by simp [h], by decide, fun _ _ => rfl⟩
  · exact ⟨'a', h, by decide, fun _ _ => rfl⟩

theorem endsWord_beside_letter {before after p q : Text} {x y : Char} (hx : casedFollows [x]) (hy : casedFollows [y])
    (h : endsWord (before ++ p) (q ++ after) ≠ endsWord p q) :
    endsWord ([x] ++ p) (q ++ []) ≠ endsWord p q ∨ endsWord ([] ++ p) (q ++ [y]) ≠ endsWord p q := by
  simp only [endsWord, List.reverse_append, List.reverse_singleton, List.append_nil, List.nil_append,
    casedFollows_append, hx, hy] at h ⊢
  have hp (hall : p.reverse.all isIgnorable) := casedFollows_of_ignorable hall
  have hq (hall : q.all isIgnorable) := casedFollows_of_ignorable hall
  by_cases hpall : p.reverse.all isIgnorable <;> by_cases hqall : q.all isIgnorable <;> simp_all

theorem not_infix_cons {l m : Text} {x : Char} (hlength : l.length = m.length) (hne : m ≠ l)
    (hx : l.head? ≠ some x) : ¬ l <:+: x :: m := by
  rw [List.infix_cons_iff]
  rintro (hstart | hrest)
  · cases l with
    | nil => exact hne (List.length_eq_zero_iff.1 hlength.symm)
    | cons c l =>
        obtain ⟨rfl, -⟩ := List.cons_prefix_cons.1 hstart
        exact hx rfl
  · exact hne (hrest.eq_of_length hlength).symm

theorem not_infix_concat {l m : Text} {x : Char} (hlength : l.length = m.length) (hne : m ≠ l)
    (hx : l.getLast? ≠ some x) : ¬ l <:+: m ++ [x] := by
  rw [← List.reverse_infix, List.reverse_append, List.reverse_singleton, List.singleton_append]
  apply not_infix_cons
  · rw [List.length_reverse, List.length_reverse, hlength]
  · rwa [ne_eq, List.reverse_inj]
  · rwa [List.head?_reverse]

theorem exists_lost {piece : Text} (h : ¬ piece.Settled) :
    ∃ t : Text, piece <:+: t ∧ ¬ piece.lower <:+: t.lower := by
  simp only [Settled, KeepsSigmas, not_forall] at h
  obtain ⟨before, after, p, q, hpiece, hne⟩ := h
  have hlength (before after : Text) : piece.lower.length = (lowerAmid before piece after).length := by
    rw [lower_eq_lowerAmid]
    exact length_lowerAmid ..
  -- The letter is not what the piece begins or ends with, so that the piece cannot be found with the letter in it.
  obtain ⟨x, hhead, hx, hxlower⟩ := exists_letter piece.lower.head?
  obtain ⟨y, hlast, hy, hylower⟩ := exists_letter piece.lower.getLast?
  rcases endsWord_beside_letter hx hy hne with hbefore | hafter
  · refine ⟨[x] ++ piece, (List.suffix_append [x] piece).isInfix, ?_⟩
    rw [lower_append, hxlower]
    exact not_infix_cons (hlength _ _) (lowerAmid_ne hpiece hbefore) hhead
  · refine ⟨piece ++ [y], (List.prefix_append piece [y]).isInfix, ?_⟩
    rw [lower_append, hylower]
    exact not_infix_concat (hlength _ _) (lowerAmid_ne hpiece hafter) hlast

theorem settled_iff {piece : Text} : piece.Settled ↔ ∀ t : Text, piece <:+: t → piece.lower <:+: t.lower := by
  constructor
  · rintro h t ⟨before, after, rfl⟩
    exact StandsAlike.infix_lower ⟨before, after, rfl, h before after⟩
  · intro h
    refine Classical.byContradiction fun hsettled => ?_
    obtain ⟨t, hpiece, hlost⟩ := exists_lost hsettled
    exact hlost (h t hpiece)

theorem lower_beside_letter_iff (piece : Text) {x : Char} (hx : ∀ before after, lowerAmid before [x] after = [x]) :
    (lower (x :: piece) = x :: piece.lower ↔ piece.KeepsSigmas [x] []) ∧
      (lower (piece ++ [x]) = piece.lower ++ [x] ↔ piece.KeepsSigmas [] [x]) := by
  have hcons : lower (x :: piece) = x :: lowerAmid [x] piece [] := by
    rw [← List.singleton_append, lower_append, hx]
    rfl
  rw [hcons, lower_append, hx, List.append_left_inj, keepsSigmas_iff, keepsSigmas_iff, List.cons.injEq]
  exact ⟨and_iff_right rfl, Iff.rfl⟩

theorem settled_iff_beside_letter {piece : Text} :
    piece.Settled ↔ lower ('a' :: piece) = 'a' :: piece.lower ∧ lower (piece ++ ['a']) = piece.lower ++ ['a'] := by
  have ha (before after : Text) : lowerAmid before ['a'] after = ['a'] := rfl
  obtain ⟨hcons, hconcat⟩ := lower_beside_letter_iff piece ha
  rw [hcons, hconcat]
  constructor
  · exact fun h => ⟨h ['a'] [], h [] ['a']⟩
  · rintro ⟨hbefore, hafter⟩ before after p q hpiece
    refine Classical.byContradiction fun hne => ?_
    have hcased : casedFollows ['a'] := by decide
    rcases endsWord_beside_letter hcased hcased hne with h | h
    · exact h (hbefore p q hpiece)
    · exact h (hafter p q hpiece)

end Triage.Text
