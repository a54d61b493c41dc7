import Mathlib.Algebra.Group.Nat.Defs
import Triage.Text.Numeral

namespace Triage.Text

theorem all_isDigit_ofNat (n : Nat) : (ofNat n).all Char.isDigit := by
  rw [List.all_eq_true]
  intro c hc
  exact Nat.isDigit_of_mem_toDigits (by decide) (by decide) hc

theorem digitsValue_ofNat (n : Nat) : digitsValue (ofNat n) = n := by
  have hvalue : Nat.ofDigitChars 10 (ofNat n) 0 = n := Nat.ofDigitChars_ten_toDigits
  rwa [Nat.ofDigitChars_eq_foldl] at hvalue

theorem ofNat_inj {m n : Nat} : ofNat m = ofNat n ↔ m = n := by
  refine ⟨fun h => ?_, congrArg ofNat⟩
  rw [← digitsValue_ofNat m, h, digitsValue_ofNat]

theorem lt_length_ofNat_iff {k n : Nat} (hk : 0 < k) : k < (ofNat n).length ↔ 10 ^ k ≤ n := by
  have hle : (ofNat n).length ≤ k ↔ n < 10 ^ k := Nat.length_toDigits_le_iff (by decide) hk
  rw [← Nat.not_le, hle, Nat.not_lt]

theorem natural?_ofNat (n : Nat) : natural? (ofNat n) = some n := by
  have hne : ofNat n ≠ [] := Nat.toDigits_ne_nil
  rw [natural?, if_pos ⟨hne, all_isDigit_ofNat n⟩, digitsValue_ofNat]

theorem integer?_cons (c : Char) (t : Text) :
    integer? (c :: t) =
      if c = '+' then (natural? t).map Int.ofNat
      else if c = '-' then (natural? t).map fun n => -Int.ofNat n
      else (natural? (c :: t)).map Int.ofNat := by
  unfold integer?
  split <;> simp_all

theorem inWord_ofNat (n : Nat) : inWord (Int.ofNat n) = decide (n < 2 ^ 63) := by
  rw [inWord, ← Bool.decide_and, decide_eq_decide]
  simp only [Int.ofNat_eq_natCast]
  omega

theorem length_ofNatPadded {width n : Nat} (hwidth : 0 < width) (h : n < 10 ^ width) :
    (ofNatPadded width n).length = width := by
  have hlength : (ofNat n).length ≤ width := (Nat.length_toDigits_le_iff (by decide) hwidth).2 h
  rw [ofNatPadded, List.length_append, List.length_replicate]
  exact Nat.sub_add_cancel hlength

theorem all_isDigit_ofNatPadded (width n : Nat) : (ofNatPadded width n).all Char.isDigit := by
  rw [ofNatPadded, List.all_append, all_isDigit_ofNat, Bool.and_true, List.all_eq_true]
  intro c hc
  rw [List.eq_of_mem_replicate hc]
  decide

theorem digitsValue_replicate_append (k : Nat) (t : Text) :
    digitsValue (List.replicate k '0' ++ t) = digitsValue t := by
  induction k with
  | zero => rfl
  | succ k ih => exact ih

theorem digitsValue_ofNatPadded (width n : Nat) : digitsValue (ofNatPadded width n) = n := by
  rw [ofNatPadded, digitsValue_replicate_append, digitsValue_ofNat]

theorem ofNatPadded_ne_nil (width n : Nat) : ofNatPadded width n ≠ [] :=
  List.append_ne_nil_of_right_ne_nil _ Nat.toDigits_ne_nil

theorem natural?_ofNatPadded (width n : Nat) : natural? (ofNatPadded width n) = some n := by
  rw [natural?, if_pos ⟨ofNatPadded_ne_nil width n, all_isDigit_ofNatPadded width n⟩, digitsValue_ofNatPadded]

theorem leadingDigits?_append {t rest : Text} {most : Nat} (hdigits : t.all Char.isDigit) (hne : t ≠ [])
    (hmost : t.length = most ∨ t.length ≤ most ∧ (rest.takeWhile Char.isDigit) = []) :
    leadingDigits? most (t ++ rest) = some (t, rest) := by
  have hrun : ((t ++ rest).takeWhile Char.isDigit).take most = t := by
    rw [List.takeWhile_append_of_pos (List.all_eq_true.1 hdigits)]
    rcases hmost with rfl | ⟨hle, hrest⟩
    · exact List.take_left
    · rw [hrest, List.append_nil, List.take_of_length_le hle]
  rw [leadingDigits?, hrun, if_neg hne, List.drop_left]

theorem exists_ofNatPadded (width n : Nat) : ∃ c t, ofNatPadded width n = c :: t ∧ c.isDigit := by
  cases hdigits : ofNatPadded width n with
  | nil => exact absurd hdigits (ofNatPadded_ne_nil width n)
  | cons c t =>
      exact ⟨c, t, rfl, List.all_eq_true.1 (all_isDigit_ofNatPadded width n) c (hdigits ▸ List.mem_cons_self)⟩

inductive Signed : Int → Text → Prop
  | plus (width n : Nat) : Signed n ('+' :: ofNatPadded width n)
  | minus (width n : Nat) : Signed (-n) ('-' :: ofNatPadded width n)

inductive Decimal : Int → Text → Prop
  | plain (width n : Nat) : Decimal n (ofNatPadded width n)
  | signed {v : Int} {t : Text} (h : Signed v t) : Decimal v t

theorem decimal_ofInt (v : Int) : Decimal v (ofInt v) := by
  have hpadded (n : Nat) : ofNat n = ofNatPadded 0 n := by simp [ofNatPadded]
  cases v with
  | ofNat n =>
      rw [ofInt, hpadded]
      exact .plain 0 n
  | negSucc n =>
      rw [ofInt, hpadded]
      exact .signed (.minus 0 (n + 1))

theorem Decimal.integer?_eq {v : Int} {t : Text} (h : Decimal v t) : integer? t = some v := by
  cases h with
  | plain width n =>
      obtain ⟨c, t, heq, hc⟩ := exists_ofNatPadded width n
      have hsign {mark : Char} (hmark : mark.isDigit = false) : c ≠ mark := by
        rintro rfl
        exact Bool.false_ne_true (hmark.symm.trans hc)
      rw [heq, integer?_cons, if_neg (hsign (by decide)), if_neg (hsign (by decide)), ← heq, natural?_ofNatPadded]
      rfl
  | signed h =>
      cases h with
      | plus width n =>
          rw [integer?, natural?_ofNatPadded]
          rfl
      | minus width n =>
          rw [integer?, natural?_ofNatPadded]
          rfl

end Triage.Text
