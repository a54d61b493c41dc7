import Triage.Text.Casing

namespace Triage.Text

namespace Casing

theorem exists_of_toLower_ne {c : Char} (h : c.toLower ≠ c) : ∃ n < 26, c = Char.ofNat (65 + n) := by
  have hrange : 65 ≤ c.toNat ∧ c.toNat ≤ 90 := by
    refine Decidable.byContradiction fun hout => h (dif_neg fun hcapital => hout ?_)
    exact ⟨UInt32.le_iff_toNat_le.1 hcapital.1, UInt32.le_iff_toNat_le.1 hcapital.2⟩
  refine ⟨c.toNat - 65, by omega, ?_⟩
  rw [Nat.add_sub_cancel' hrange.1, Char.ofNat_toNat]

/-- What is the same on the capitals of ASCII and their small forms does not see `toLower`. -/
theorem apply_toLower {α : Type} {f : Char → α}
    (h : ∀ n < 26, f (Char.ofNat (65 + n)).toLower = f (Char.ofNat (65 + n))) (c : Char) : f c.toLower = f c := by
  by_cases hc : c.toLower = c
  · rw [hc]
  · obtain ⟨n, hn, rfl⟩ := exists_of_toLower_ne hc
    exact h n hn

theorem isCased_toLower (c : Char) : isCased c.toLower = isCased c := apply_toLower (by decide) c

theorem isIgnorable_toLower (c : Char) : isIgnorable c.toLower = isIgnorable c := apply_toLower (by decide) c

theorem lowerChar_toLower (c : Char) : lowerChar c.toLower = lowerChar c := apply_toLower (by decide) c

theorem toLower_eq_sigma (c : Char) : (c.toLower = 'Σ') = (c = 'Σ') :=
  apply_toLower (f := fun c => c = 'Σ') (by decide) c

theorem casedFollows_cons (c : Char) (cs : Text) :
    casedFollows (c :: cs) = if isIgnorable c then casedFollows cs else isCased c := by
  by_cases h : isIgnorable c <;> simp [casedFollows, h]

theorem casedFollows_lowerAscii (t : Text) : casedFollows t.lowerAscii = casedFollows t := by
  induction t with
  | nil => rfl
  | cons c cs ih =>
      rw [lowerAscii] at ih ⊢
      rw [List.map_cons, casedFollows_cons, casedFollows_cons, isIgnorable_toLower, isCased_toLower, ih]

theorem lowerFrom_lowerAscii (afterCased : Bool) (t : Text) :
    lowerFrom afterCased t.lowerAscii = lowerFrom afterCased t := by
  induction t generalizing afterCased with
  | nil => rfl
  | cons c cs ih =>
      have hfollows := casedFollows_lowerAscii cs
      rw [lowerAscii] at ih hfollows ⊢
      simp only [List.map_cons, lowerFrom, toLower_eq_sigma, hfollows, isIgnorable_toLower, isCased_toLower,
        lowerChar_toLower, ih]

end Casing

theorem lower_eq_of_sameWord {s t : Text} (h : s.sameWord t) : s.lower = t.lower := by
  have hst : s.lowerAscii = t.lowerAscii := beq_iff_eq.1 h
  have hlower := congrArg (Casing.lowerFrom false) hst
  rwa [Casing.lowerFrom_lowerAscii, Casing.lowerFrom_lowerAscii] at hlower

end Triage.Text
