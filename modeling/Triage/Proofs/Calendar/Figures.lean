import Triage.Proofs.Calendar.Folding
import Triage.Proofs.Text.Trimming

/-!
What dates and integers are written with: digits, signs and blanks. There are two hyphens in a date and at most one in
an integer, and so no text reads as both.
-/

namespace Triage

open Text

namespace Text

def isFigure (c : Char) : Bool := c.isDigit || c == '+' || c == '-' || isBlank c

theorem isFigure_of_isDigit {c : Char} (h : c.isDigit) : isFigure c := by simp [isFigure, h]

theorem isFigure_of_isBlank {c : Char} (h : isBlank c) : isFigure c := by simp [isFigure, h]

theorem all_isFigure_takeWhile {p : Char → Bool} (hp : ∀ {c}, p c → isFigure c) (t : Text) :
    (t.takeWhile p).all isFigure :=
  List.all_eq_true.2 fun c hc => hp (List.all_eq_true.1 List.all_takeWhile c hc)

theorem all_isFigure_of_trim {t : Text} (h : t.trim.all isFigure) : t.all isFigure := by
  rw [List.all_eq_true] at h ⊢
  intro c hc
  rcases isBlank_or_mem_trim hc with hblank | hmem
  · exact isFigure_of_isBlank hblank
  · exact h c hmem

end Text

namespace Calendar.Reader

variable {α β : Type}

/-- Whether all that a reader takes of a text are figures, so many hyphens at least among them. -/
def Takes (hyphens : Nat) (r : Reader α) : Prop :=
  ∀ t a rest, r.run t = some (a, rest) → ∃ taken, t = taken ++ rest ∧ taken.all isFigure ∧ hyphens ≤ taken.count '-'

theorem takes_pure (a : α) : Takes 0 (pure a) := by
  rintro t _ rest h
  obtain ⟨-, rfl⟩ := Prod.mk.inj (Option.some.inj h)
  exact ⟨[], rfl, rfl, Nat.zero_le _⟩

theorem takes_lift (value? : Option α) : Takes 0 (liftM value?) := by
  rintro t a rest h
  cases value? with
  | none => cases h
  | some value => exact takes_pure value t a rest h

theorem Takes.bind {r : Reader α} {next : α → Reader β} {j k : Nat} (hr : Takes j r) (hnext : ∀ a, Takes k (next a)) :
    Takes (j + k) (r >>= next) := by
  rintro t b rest h
  rw [StateT.run_bind] at h
  obtain ⟨⟨a, between⟩, hfirst, hsecond⟩ := Option.bind_eq_some_iff.1 h
  obtain ⟨first, rfl, hfigures, hcount⟩ := hr t a between hfirst
  obtain ⟨second, rfl, hfigures', hcount'⟩ := hnext a between b rest hsecond
  refine ⟨first ++ second, (List.append_assoc ..).symm, by rw [List.all_append, hfigures, hfigures']; rfl, ?_⟩
  rw [List.count_append]
  exact Nat.add_le_add hcount hcount'

theorem Takes.after {r : Reader α} {k : Nat} (hr : Takes k r) {skipped t rest : Text} {a : α}
    (hskipped : skipped.all isFigure) (h : r.run t = some (a, rest)) :
    ∃ taken, skipped ++ t = taken ++ rest ∧ taken.all isFigure ∧ k ≤ taken.count '-' := by
  obtain ⟨taken, rfl, hfigures, hcount⟩ := hr t a rest h
  refine ⟨skipped ++ taken, (List.append_assoc ..).symm, by rw [List.all_append, hskipped, hfigures]; rfl, ?_⟩
  rw [List.count_append]
  exact Nat.le_add_left_of_le hcount

theorem takes_skipBlanks : Takes 0 skipBlanks := by
  rintro t _ rest h
  obtain ⟨-, rfl⟩ := Prod.mk.inj (Option.some.inj h)
  exact ⟨t.takeWhile isBlank, List.takeWhile_append_dropWhile.symm, all_isFigure_takeWhile isFigure_of_isBlank t,
    Nat.zero_le _⟩

theorem takes_sign {mark : Char} (h : isFigure mark) : Takes ([mark].count '-') (literal mark) := by
  rintro (_ | ⟨c, t⟩) _ rest hrun
  · cases hrun
  · change (if c == mark then some ((), t) else none) = some (_, rest) at hrun
    split at hrun
    · next hc =>
        cases hrun
        obtain rfl := beq_iff_eq.1 hc
        exact ⟨[c], rfl, by simp [h], Nat.le_refl _⟩
    · cases hrun

theorem takes_digits (most : Nat) : Takes 0 (digits most) := by
  rintro t run rest h
  change leadingDigits? most t = some (run, rest) at h
  rw [leadingDigits?] at h
  split at h
  · cases h
  · obtain ⟨rfl, rfl⟩ := Prod.mk.inj (Option.some.inj h)
    refine ⟨(t.takeWhile Char.isDigit).take most, ?_, ?_, Nat.zero_le _⟩
    · have hprefix : (t.takeWhile Char.isDigit).take most <+: t :=
        (List.take_prefix most _).trans (List.takeWhile_prefix _)
      exact (List.prefix_iff_eq_append.1 hprefix).symm
    · have hrun := List.all_eq_true.1 (all_isFigure_takeWhile isFigure_of_isDigit t)
      exact List.all_eq_true.2 fun c hc => hrun c (List.mem_of_mem_take hc)

theorem takes_number (most : Nat) : Takes 0 (number most) :=
  takes_skipBlanks.bind fun _ => (takes_digits most).bind fun _ => takes_pure _

theorem takes_year : Takes 0 year := by
  have hdigits (most : Nat) (value : Text → Int) : Takes 0 (do return value (← digits most)) :=
    (takes_digits most).bind fun _ => takes_pure _
  rintro t y rest h
  have hblanks : (t.takeWhile isBlank).all isFigure := all_isFigure_takeWhile isFigure_of_isBlank t
  have hstart : t = t.takeWhile isBlank ++ t.trimStart := List.takeWhile_append_dropWhile.symm
  rw [hstart]
  rw [run_year] at h
  split at h
  · next signed hminus =>
      rw [dropPrefix?_eq_some_iff.1 hminus, ← List.append_assoc]
      exact (hdigits _ _).after (by simp [hblanks, isFigure]) h
  · split at h
    · next signed hplus =>
        rw [dropPrefix?_eq_some_iff.1 hplus, ← List.append_assoc]
        exact (hdigits _ _).after (by simp [hblanks, isFigure]) h
    · exact (hdigits _ _).after hblanks h

theorem takes_date {gap : Reader Unit} (h : Takes 0 gap) : Takes 2 (date gap) := by
  have hhyphen : Takes 1 (literal '-') := takes_sign (by decide)
  have hdate : Takes (0 + (0 + (1 + (0 + (0 + (1 + (0 + 0))))))) (date gap) :=
    takes_year.bind fun _ => h.bind fun _ => hhyphen.bind fun _ => (takes_number 2).bind fun _ =>
      h.bind fun _ => hhyphen.bind fun _ => (takes_number 2).bind fun _ => takes_lift _
  exact hdate

theorem Takes.whole? {r : Reader α} {k : Nat} (hr : Takes k r) {t : Text} {a : α} (h : whole? r t = some a) :
    t.all isFigure ∧ k ≤ t.count '-' := by
  rw [Reader.whole?] at h
  split at h
  · next b hrun =>
      obtain ⟨taken, rfl, hfigures, hcount⟩ := hr t b [] hrun
      rw [List.append_nil]
      exact ⟨hfigures, hcount⟩
  · cases h

end Calendar.Reader

theorem Date.figures_of_read? {t : Text} {d : Date} (h : Date.read? t = some d) :
    t.all isFigure ∧ 2 ≤ t.trim.count '-' := by
  obtain ⟨hfigures, hcount⟩ := (Calendar.Reader.takes_date (Calendar.Reader.takes_pure ())).whole? h
  exact ⟨all_isFigure_of_trim hfigures, hcount⟩

theorem Text.figures_of_integer? {t : Text} {n : Int} (h : integer? t = some n) :
    t.all isFigure ∧ t.count '-' ≤ 1 := by
  have hdigits {s : Text} {m : Nat} (hs : natural? s = some m) : s.all isFigure ∧ s.count '-' = 0 := by
    rw [natural?] at hs
    split at hs
    · next hall =>
        have hdigit := List.all_eq_true.1 hall.2
        refine ⟨List.all_eq_true.2 fun c hc => isFigure_of_isDigit (hdigit c hc), List.count_eq_zero.2 fun hc => ?_⟩
        exact absurd (hdigit '-' hc) (by decide)
    · cases hs
  have hsigned (sign : Char) (hsign : isFigure sign) {s : Text} {m : Nat} (hs : natural? s = some m) :
      (sign :: s).all isFigure ∧ (sign :: s).count '-' ≤ 1 := by
    obtain ⟨hfigures, hcount⟩ := hdigits hs
    refine ⟨by rw [List.all_cons, hsign, hfigures]; rfl, ?_⟩
    rw [List.count_cons, hcount]
    split <;> decide
  cases t with
  | nil => cases h
  | cons c t =>
      rw [integer?_cons] at h
      split at h
      · next hc =>
          obtain ⟨m, hm, -⟩ := Option.map_eq_some_iff.1 h
          exact hc ▸ hsigned '+' (by decide) hm
      · split at h
        · next hc =>
            obtain ⟨m, hm, -⟩ := Option.map_eq_some_iff.1 h
            exact hc ▸ hsigned '-' (by decide) hm
        · obtain ⟨m, hm, -⟩ := Option.map_eq_some_iff.1 h
          obtain ⟨hfigures, hcount⟩ := hdigits hm
          exact ⟨hfigures, by rw [hcount]; exact Nat.zero_le 1⟩

theorem figures_of_readInteger? {t : Text} {n : Int} (h : readInteger? t = some n) :
    t.all isFigure ∧ t.trim.count '-' ≤ 1 := by
  obtain ⟨hinteger, -⟩ := Option.filter_eq_some_iff.1 h
  obtain ⟨hfigures, hcount⟩ := figures_of_integer? hinteger
  exact ⟨all_isFigure_of_trim hfigures, hcount⟩

theorem Date.read?_of_readInteger? {t : Text} {n : Int} (h : readInteger? t = some n) : Date.read? t = none := by
  rw [Option.eq_none_iff_forall_ne_some]
  intro d hd
  have htwo := (Date.figures_of_read? hd).2
  have hone := (figures_of_readInteger? h).2
  omega

end Triage
