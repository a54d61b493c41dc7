import Triage.CommandLine.Run
import Triage.Proofs.Text.Numeral

/-!
What the line of an issue tells of it. Blanks fill the column of ids, so that an id shorter than the column is told apart
from the title; one that fills the column is not told apart from digits at which the title begins.
-/

namespace Triage

namespace Text

theorem padRight_of_le {width : Nat} {t : Text} (h : width ≤ t.length) : padRight width t = t := by
  rw [padRight, Nat.sub_eq_zero_of_le h, List.replicate_zero, List.append_nil]

theorem length_padRight (width : Nat) (t : Text) : (padRight width t).length = max width t.length := by
  rw [padRight, List.length_append, List.length_replicate]
  omega

theorem takeWhile_padRight_ofNat (width n : Nat) : (padRight width (ofNat n)).takeWhile Char.isDigit = ofNat n := by
  have hblank : (' ' : Char).isDigit = false := by decide
  rw [padRight, List.takeWhile_append_of_pos (List.all_eq_true.1 (all_isDigit_ofNat n)), List.takeWhile_replicate,
    hblank]
  exact List.append_nil _

theorem le_length_of_all_isDigit {width : Nat} {t : Text} (h : (padRight width t).all Char.isDigit) :
    width ≤ t.length := by
  refine Nat.not_lt.1 fun hshort => ?_
  have hblank : ' ' ∈ padRight width t :=
    List.mem_append_right t (List.mem_replicate.2 ⟨Nat.sub_ne_zero_of_lt hshort, rfl⟩)
  exact absurd (List.all_eq_true.1 h ' ' hblank) (by decide)

theorem padRight_eq_append {width m n : Nat} {more : Text}
    (h : padRight width (ofNat n) = padRight width (ofNat m) ++ more) :
    more = [] ∧ m = n ∨ more ≠ [] ∧ width ≤ (ofNat m).length ∧ ofNat n = ofNat m ++ more := by
  by_cases hmore : more = []
  · rw [hmore, List.append_nil] at h
    refine .inl ⟨hmore, ofNat_inj.1 ?_⟩
    rw [← takeWhile_padRight_ofNat width m, ← h, takeWhile_padRight_ofNat]
  · have hlonger : width ≤ (ofNat n).length := by
      have hlength := congrArg List.length h
      have hpositive := List.length_pos_iff.2 hmore
      rw [List.length_append, length_padRight, length_padRight] at hlength
      omega
    have hfull : padRight width (ofNat n) = ofNat n := padRight_of_le hlonger
    have hdigits := all_isDigit_ofNat n
    rw [← hfull, h, List.all_append, Bool.and_eq_true] at hdigits
    have hwidth := le_length_of_all_isDigit hdigits.1
    rw [hfull, padRight_of_le hwidth] at h
    exact .inr ⟨hmore, hwidth, h⟩

end Text

open Text

namespace CommandLine

/-- Whether the id of one issue fills the column of ids and runs into the title, which begins with the digits that the
longer id of another issue has after it. -/
def RunsInto (a b : Issue) : Prop :=
  100000 ≤ a.id.toNat ∧ ∃ more, more ≠ [] ∧ ofNat b.id.toNat = ofNat a.id.toNat ++ more ∧ a.title = more ++ b.title

theorem runsInto_iff {a b : Issue} :
    RunsInto a b ↔ 6 ≤ (ofNat a.id.toNat).length ∧
      ∃ more, more ≠ [] ∧ ofNat b.id.toNat = ofNat a.id.toNat ++ more ∧ a.title = more ++ b.title :=
  and_congr_left' (lt_length_ofNat_iff (k := 5) (by decide)).symm

theorem resultLine_eq_iff_padded {a b : Issue} :
    resultLine a = resultLine b ↔
      padRight 6 (ofNat a.id.toNat) ++ a.title = padRight 6 (ofNat b.id.toNat) ++ b.title := by
  simp [resultLine, -List.append_assoc]

theorem RunsInto.resultLine_eq {a b : Issue} (h : RunsInto a b) : resultLine a = resultLine b := by
  obtain ⟨hfills, more, -, hid, htitle⟩ := runsInto_iff.1 h
  have hlonger : 6 ≤ (ofNat b.id.toNat).length := by
    rw [hid, List.length_append]
    exact Nat.le_add_right_of_le hfills
  rw [resultLine_eq_iff_padded, padRight_of_le hfills, padRight_of_le hlonger, hid, htitle, List.append_assoc]

theorem alike_or_runsInto {a b : Issue} {more : Text}
    (hid : padRight 6 (ofNat b.id.toNat) = padRight 6 (ofNat a.id.toNat) ++ more)
    (htitle : a.title = more ++ b.title) : a.id = b.id ∧ a.title = b.title ∨ RunsInto a b := by
  rcases padRight_eq_append hid with ⟨rfl, hsame⟩ | ⟨hmore, hfills, hlonger⟩
  · exact .inl ⟨UInt64.toNat_inj.1 hsame, htitle⟩
  · exact .inr (runsInto_iff.2 ⟨hfills, more, hmore, hlonger, htitle⟩)

theorem RunsInto.million_le {a b : Issue} (h : RunsInto a b) : 1000000 ≤ b.id.toNat := by
  obtain ⟨hfills, more, hmore, hid, -⟩ := runsInto_iff.1 h
  have hpositive := List.length_pos_iff.2 hmore
  refine (lt_length_ofNat_iff (k := 6) (by decide)).1 ?_
  rw [hid, List.length_append]
  omega

def BeginsWithDigit (title : Text) : Prop := ∃ c ∈ title.head?, c.isDigit

theorem RunsInto.beginsWithDigit {a b : Issue} (h : RunsInto a b) : BeginsWithDigit a.title := by
  obtain ⟨-, more, hmore, hid, htitle⟩ := h
  obtain ⟨c, rest, rfl⟩ := List.exists_cons_of_ne_nil hmore
  have hdigits := List.all_eq_true.1 (all_isDigit_ofNat b.id.toNat)
  rw [htitle]
  exact ⟨c, rfl, hdigits c (hid ▸ List.mem_append_right _ List.mem_cons_self)⟩

theorem not_runsInto {a b : Issue} (h : b.id.toNat < 1000000 ∨ ¬ BeginsWithDigit a.title) : ¬ RunsInto a b := by
  intro hruns
  rcases h with hshort | hword
  · exact absurd hruns.million_le (Nat.not_le.2 hshort)
  · exact hword hruns.beginsWithDigit

theorem alike_or_runsInto_of_eq {a b : Issue} (h : resultLine a = resultLine b) :
    a.id = b.id ∧ a.title = b.title ∨ RunsInto a b ∨ RunsInto b a := by
  rcases List.append_eq_append_iff.1 (resultLine_eq_iff_padded.1 h) with ⟨more, hid, htitle⟩ | ⟨more, hid, htitle⟩
  · exact (alike_or_runsInto hid htitle).imp_right .inl
  · exact (alike_or_runsInto hid htitle).imp (fun halike => ⟨halike.1.symm, halike.2.symm⟩) .inr

theorem resultLine_eq_of_alike {a b : Issue} (h : a.id = b.id ∧ a.title = b.title) : resultLine a = resultLine b := by
  rw [resultLine, resultLine, h.1, h.2]

theorem resultLine_eq_iff (a b : Issue) :
    (resultLine a = resultLine b ↔ a.id = b.id ∧ a.title = b.title ∨ RunsInto a b ∨ RunsInto b a) ∧
    (a.id.toNat < 1000000 ∧ b.id.toNat < 1000000 ∨ ¬ BeginsWithDigit a.title ∧ ¬ BeginsWithDigit b.title →
      (resultLine a = resultLine b ↔ a.id = b.id ∧ a.title = b.title)) := by
  refine ⟨⟨alike_or_runsInto_of_eq, ?_⟩, fun happart => ⟨fun h => ?_, resultLine_eq_of_alike⟩⟩
  · rintro (halike | hruns | hruns)
    · exact resultLine_eq_of_alike halike
    · exact hruns.resultLine_eq
    · exact hruns.resultLine_eq.symm
  · refine (alike_or_runsInto_of_eq h).resolve_right (not_or.2 ⟨?_, ?_⟩)
    · exact not_runsInto (happart.imp And.right And.left)
    · exact not_runsInto (happart.imp And.left And.right)

def titled (id : UInt64) (title : String) : Issue :=
  { id, title := title.toList, author := [], createdAt := .midnight ⟨2024, 5, 17, by decide⟩,
    updatedAt := .midnight ⟨2024, 5, 17, by decide⟩ }

theorem resultLine_eq_iff_moved :
    ((titled 999999 " lives").id.toNat < 1000000 ∧ (titled 99999 "9 lives").id.toNat < 1000000) ∧
    resultLine (titled 999999 " lives") ≠ resultLine (titled 99999 "9 lives") := by
  have hshort : (titled 999999 " lives").id.toNat < 1000000 ∧ (titled 99999 "9 lives").id.toNat < 1000000 := by decide
  refine ⟨hshort, fun h => ?_⟩
  have hid : (999999 : UInt64) = 99999 := (((resultLine_eq_iff _ _).2 (.inl hshort)).1 h).1
  exact absurd hid (by decide)

theorem resultLine_shared : ¬ ∀ a b, resultLine a = resultLine b → a.id = b.id ∧ a.title = b.title := by
  intro h
  have hline : resultLine (titled 123456 "7 days") = resultLine (titled 1234567 " days") := by decide +kernel
  have hid : (123456 : UInt64) = 1234567 := (h _ _ hline).1
  exact absurd hid (by decide)

end CommandLine

end Triage
