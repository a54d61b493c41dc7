import Triage.Proofs.Text.Casing
import Triage.Proofs.Text.Numeral

namespace Triage.Text

def Caseless (c : Char) : Prop := ∀ n < 26, Char.ofNat (65 + n) ≠ c ∧ (Char.ofNat (65 + n)).toLower ≠ c

instance (c : Char) : Decidable (Caseless c) := inferInstanceAs (Decidable (∀ _ < _, _))

def Letterless (t : Text) : Prop := ∀ c ∈ t, Caseless c

instance (t : Text) : Decidable t.Letterless := List.decidableBAll Caseless t

theorem toLower_eq_iff {c d : Char} (hd : Caseless d) : c.toLower = d ↔ c = d := by
  by_cases hc : c.toLower = c
  · rw [hc]
  · obtain ⟨n, hn, rfl⟩ := Casing.exists_of_toLower_ne hc
    obtain ⟨hcapital, hsmall⟩ := hd n hn
    simp [hcapital, hsmall]

def CaseBlind (p : Char → Bool) : Prop := ∀ c, p c.toLower = p c

theorem caseBlind_isBlank : CaseBlind isBlank := Casing.apply_toLower (by decide)

theorem caseBlind_isControl : CaseBlind isControl := Casing.apply_toLower (by decide)

theorem caseBlind_isDigit : CaseBlind Char.isDigit := Casing.apply_toLower (by decide)

@[simp] theorem toLower_toLower (c : Char) : c.toLower.toLower = c.toLower := Casing.apply_toLower (by decide) c

@[simp] theorem utf8Size_toLower (c : Char) : c.toLower.utf8Size = c.utf8Size := Casing.apply_toLower (by decide) c

theorem toLower_of_isDigit {c : Char} (h : c.isDigit) : c.toLower = c := by
  by_cases hc : c.toLower = c
  · exact hc
  · obtain ⟨n, hn, rfl⟩ := Casing.exists_of_toLower_ne hc
    have hnone : ∀ n < 26, (Char.ofNat (65 + n)).isDigit = false := by decide
    rw [hnone n hn] at h
    cases h

@[simp] theorem lowerAscii_nil : lowerAscii [] = [] := rfl

@[simp] theorem lowerAscii_cons (c : Char) (t : Text) : lowerAscii (c :: t) = c.toLower :: lowerAscii t := rfl

@[simp] theorem lowerAscii_append (s t : Text) : lowerAscii (s ++ t) = lowerAscii s ++ lowerAscii t := List.map_append

@[simp] theorem lowerAscii_lowerAscii (t : Text) : lowerAscii (lowerAscii t) = lowerAscii t := by
  simp [lowerAscii]

@[simp] theorem lowerAscii_eq_nil_iff {t : Text} : lowerAscii t = [] ↔ t = [] := List.map_eq_nil_iff

@[simp] theorem length_lowerAscii (t : Text) : (lowerAscii t).length = t.length := List.length_map _

@[simp] theorem byteSize_lowerAscii (t : Text) : (lowerAscii t).byteSize = t.byteSize := by
  induction t with
  | nil => rfl
  | cons c t ih => simp [ih]

theorem sameWord_iff {s t : Text} : s.sameWord t ↔ lowerAscii s = lowerAscii t := beq_iff_eq

theorem sameWord_lowerAscii (t : Text) : (lowerAscii t).sameWord t := by
  rw [sameWord_iff, lowerAscii_lowerAscii]

@[simp] theorem sameWord_lowerAscii_left (s t : Text) : (lowerAscii s).sameWord t = s.sameWord t := by
  rw [sameWord, sameWord, lowerAscii_lowerAscii]

@[simp] theorem lower_lowerAscii (t : Text) : (lowerAscii t).lower = t.lower := Casing.lowerFrom_lowerAscii false t

section CaseBlind

variable {p : Char → Bool} (hp : CaseBlind p) (t : Text)

include hp

theorem CaseBlind.takeWhile_lowerAscii : t.lowerAscii.takeWhile p = lowerAscii (t.takeWhile p) := by
  have hcomp : p ∘ Char.toLower = p := funext hp
  rw [lowerAscii, List.takeWhile_map, hcomp]
  rfl

theorem CaseBlind.dropWhile_lowerAscii : t.lowerAscii.dropWhile p = lowerAscii (t.dropWhile p) := by
  have hcomp : p ∘ Char.toLower = p := funext hp
  rw [lowerAscii, List.dropWhile_map, hcomp]
  rfl

theorem CaseBlind.all_lowerAscii : t.lowerAscii.all p = t.all p := by
  have hcomp : p ∘ Char.toLower = p := funext hp
  rw [lowerAscii, List.all_map, hcomp]

end CaseBlind

theorem trimStart_lowerAscii (t : Text) : trimStart (lowerAscii t) = lowerAscii (trimStart t) :=
  caseBlind_isBlank.dropWhile_lowerAscii t

@[simp] theorem trim_lowerAscii (t : Text) : trim (lowerAscii t) = lowerAscii (trim t) := by
  have hreverse : ∀ t : Text, (lowerAscii t).reverse = lowerAscii t.reverse := fun t => List.map_reverse.symm
  rw [trim, trim, trimStart_lowerAscii, trimEnd, trimEnd, hreverse, caseBlind_isBlank.dropWhile_lowerAscii, hreverse]

theorem dropPrefix?_eq_none {start t : Text} (h : ∀ rest, t ≠ start ++ rest) : dropPrefix? start t = none :=
  Option.eq_none_iff_forall_ne_some.2 fun rest hrest => h rest (dropPrefix?_eq_some_iff.1 hrest)

theorem dropPrefix?_lowerAscii {start : Text} (h : start.Letterless) (t : Text) :
    dropPrefix? start (lowerAscii t) = (dropPrefix? start t).map lowerAscii := by
  induction start generalizing t with
  | nil => rfl
  | cons p ps ih =>
      obtain ⟨hp, hps⟩ := List.forall_mem_cons.1 h
      cases t with
      | nil => rfl
      | cons c t =>
          have hc : p = c.toLower ↔ p = c := by rw [eq_comm, toLower_eq_iff hp, eq_comm]
          rw [lowerAscii_cons, dropPrefix?, dropPrefix?]
          simp only [hc, ih hps]
          split <;> rfl

theorem cut?_lowerAscii {sep : Text} (h : sep.Letterless) (t : Text) :
    cut? (lowerAscii t) sep = (cut? t sep).map fun (before, rest) => (lowerAscii before, lowerAscii rest) := by
  induction t with
  | nil =>
      rw [lowerAscii_nil, cut?]
      split <;> rfl
  | cons c t ih =>
      have hprefix := dropPrefix?_lowerAscii h (c :: t)
      rw [lowerAscii_cons] at hprefix ⊢
      rw [cut?, cut?, hprefix, ih]
      cases dropPrefix? sep (c :: t) with
      | some rest => rfl
      | none => cases cut? t sep <;> rfl

theorem fields_lowerAscii {sep : Char} (h : Caseless sep) (t : Text) :
    fields sep (lowerAscii t) = (fields sep t).map lowerAscii := by
  induction t with
  | nil => rfl
  | cons c t ih =>
      rw [lowerAscii_cons, fields, fields, ih]
      simp only [toLower_eq_iff h]
      split
      · rfl
      · cases fields sep t <;> rfl

theorem lowerAscii_of_digits {t : Text} (h : t.all Char.isDigit) : lowerAscii t = t := by
  rw [List.all_eq_true] at h
  exact (List.map_congr_left fun c hc => toLower_of_isDigit (h c hc)).trans (List.map_id t)

@[simp] theorem natural?_lowerAscii (t : Text) : natural? (lowerAscii t) = natural? t := by
  simp only [natural?, caseBlind_isDigit.all_lowerAscii, ne_eq, lowerAscii_eq_nil_iff]
  split
  · next h => rw [lowerAscii_of_digits h.2]
  · rfl

@[simp] theorem word?_lowerAscii (t : Text) : word? (lowerAscii t) = word? t := by
  have hinteger : integer? (lowerAscii t) = integer? t := by
    cases t with
    | nil => rfl
    | cons c t =>
        have hplus : c.toLower = '+' ↔ c = '+' := toLower_eq_iff (by decide)
        have hminus : c.toLower = '-' ↔ c = '-' := toLower_eq_iff (by decide)
        have hnatural := natural?_lowerAscii (c :: t)
        rw [lowerAscii_cons] at hnatural ⊢
        simp only [integer?_cons, hplus, hminus, hnatural, natural?_lowerAscii]
  rw [word?, word?, hinteger]

end Triage.Text
