import Triage.Proofs.Calendar.Figures
import Triage.Proofs.Text.Cutting

namespace Triage

open Text

namespace Comparison

variable {α β : Type} {operand : Text → Option α}

def Admits : Comparison Int → Int → Prop
  | .eq v, x => x = v
  | .gt v, x => v < x
  | .ge v, x => v ≤ x
  | .lt v, x => x < v
  | .le v, x => x ≤ v
  | .between low high, x => low ≤ x ∧ x ≤ high

theorem holds_iff_admits (c : Comparison Int) (x : Int) : c.holds x ↔ c.Admits x := by
  cases c with
  | eq v => simp [holds, Admits]
  | gt v => simpa [holds, Admits] using Std.compare_eq_gt
  | ge v => exact Std.isGE_compare
  | lt v => simpa [holds, Admits] using Std.compare_eq_lt
  | le v => exact Std.isLE_compare
  | between low high =>
      rw [holds, Bool.and_eq_true]
      exact and_congr Std.isLE_compare Std.isLE_compare

/-- Whether blanks around a text do not matter to how it reads as an operand, and it reads so only if all of it are
figures. -/
structure Operand (operand : Text → Option α) : Prop where
  trims : ∀ {s t : Text}, s.trim = t.trim → operand s = operand t
  figures : ∀ {t : Text} {v : α}, operand t = some v → t.all isFigure

theorem operand_integer : Operand readInteger? where
  trims h := congrArg word? h
  figures h := (figures_of_readInteger? h).1

theorem operand_date : Operand Date.read? where
  trims h := congrArg (Calendar.Reader.date (pure ())).whole? h
  figures h := (Date.figures_of_read? h).1

theorem Operand.ne_cons (hop : Operand operand) {t rest : Text} {v : α} {c : Char} (h : operand t = some v)
    (hc : isFigure c = false) : t ≠ c :: rest := by
  rintro rfl
  have hfigures := hop.figures h
  simp [hc] at hfigures

theorem read?_marked (hop : Operand operand) {mark : Text} {form : α → Comparison α} (hmark : (mark, form) ∈ marks)
    {t : Text} {v : α} (h : operand t = some v) : read? operand (mark ++ t) = some (form v) := by
  have hrest : operand t.trimEnd = some v := (hop.trims (trim_trimEnd t)).trans h
  have hequals : dropPrefix? ['='] t.trimEnd = none := dropPrefix?_eq_none fun rest => hop.ne_cons hrest (by decide)
  have htrim : trim (mark ++ t) = mark ++ t.trimEnd ∧
      readMarked? operand (mark ++ t.trimEnd) = some (some (form v)) := by
    simp only [marks, List.mem_cons, List.not_mem_nil, or_false] at hmark
    rcases hmark with h | h | h | h <;> cases h <;>
      simp [trim_cons_of_not_isBlank, trimEnd_cons_of_not_isBlank, readMarked?, marks, dropPrefix?, hequals, hrest,
        isBlank]
  rw [read?_eq, htrim.1, htrim.2]
  rfl

section

variable (hop : Operand operand) {t : Text} {v : α} (h : operand t = some v)

include hop h

theorem read?_ge : read? operand (">=".toList ++ t) = some (ge v) := read?_marked hop (.head _) h

theorem read?_le : read? operand ("<=".toList ++ t) = some (le v) := read?_marked hop (.tail _ (.head _)) h

theorem read?_gt : read? operand (">".toList ++ t) = some (gt v) := read?_marked hop (.tail _ (.tail _ (.head _))) h

theorem read?_lt : read? operand ("<".toList ++ t) = some (lt v) :=
  read?_marked hop (.tail _ (.tail _ (.tail _ (.head _)))) h

end

theorem readMarked?_eq_none {t : Text} (hgreater : ∀ rest, t ≠ '>' :: rest) (hless : ∀ rest, t ≠ '<' :: rest) :
    readMarked? operand t = none := by
  have hge : dropPrefix? ['>', '='] t = none := dropPrefix?_eq_none fun _ => hgreater _
  have hle : dropPrefix? ['<', '='] t = none := dropPrefix?_eq_none fun _ => hless _
  have hgt : dropPrefix? ['>'] t = none := dropPrefix?_eq_none hgreater
  have hlt : dropPrefix? ['<'] t = none := dropPrefix?_eq_none hless
  simp only [readMarked?, marks, List.findSome?_cons, List.findSome?_nil, hge, hle, hgt, hlt, Option.map_none]

theorem read?_plain (hop : Operand operand) {t : Text} {v : α} (h : operand t = some v) :
    read? operand t = some (eq v) := by
  have htrim : operand t.trim = some v := (hop.trims (trim_trim t)).trans h
  have hdot : '.' ∉ t.trim := fun hmem => absurd (List.all_eq_true.1 (hop.figures htrim) '.' hmem) (by decide)
  have hmarked : readMarked? operand t.trim = none :=
    readMarked?_eq_none (fun _ => hop.ne_cons htrim (by decide)) fun _ => hop.ne_cons htrim (by decide)
  have hcut : t.trim.cut? "..".toList = none := cut?_eq_none hdot ['.']
  rw [read?_eq, hmarked, Option.getD_none, readUnmarked?]
  simp only [hcut, htrim, Option.map_some]

theorem read?_range (hop : Operand operand) {low high : Text} {l u : α} (hlow : operand low = some l)
    (hhigh : operand high = some u) : read? operand (low ++ "..".toList ++ high) = some (between l u) := by
  have hlow' : operand low.trimStart = some l := (hop.trims (trim_trimStart low)).trans hlow
  have hhigh' : operand high.trimEnd = some u := (hop.trims (trim_trimEnd high)).trans hhigh
  have hfigures := List.all_eq_true.1 (hop.figures hlow')
  have htrim : trim (low ++ ['.', '.'] ++ high) = low.trimStart ++ ['.', '.'] ++ high.trimEnd := by
    have hdot : isBlank '.' = false := by decide
    rw [List.append_assoc, List.append_assoc, trim, List.cons_append, trimStart_append_cons hdot,
      trimEnd_append_cons hdot, List.cons_append, List.nil_append, trimEnd_cons_of_not_isBlank hdot]
    rfl
  have hmarked : readMarked? operand (low.trimStart ++ ['.', '.'] ++ high.trimEnd) = none := by
    have hfirst {c : Char} (hc : isFigure c = false) (hne : c ≠ '.') (rest : Text) :
        low.trimStart ++ ['.', '.'] ++ high.trimEnd ≠ c :: rest := by
      cases hstart : low.trimStart with
      | nil => exact fun h => hne (List.cons.inj h).1.symm
      | cons first _ => exact fun h => hop.ne_cons hlow' hc ((List.cons.inj h).1 ▸ hstart)
    exact readMarked?_eq_none (hfirst (by decide) (by decide)) (hfirst (by decide) (by decide))
  have hdot : '.' ∉ low.trimStart := fun hmem => absurd (hfigures '.' hmem) (by decide)
  have hcut : cut? (low.trimStart ++ ['.', '.'] ++ high.trimEnd) "..".toList = some (low.trimStart, high.trimEnd) :=
    cut?_append_append hdot ['.'] high.trimEnd
  show read? operand (low ++ ['.', '.'] ++ high) = _
  rw [read?_eq, htrim, hmarked, Option.getD_none, readUnmarked?]
  simp only [hcut, hlow', hhigh']

theorem read?_eq_none {other : Text → Option β} (hother : ∀ {t : Text} {v : α}, operand t = some v → other t = none)
    {t : Text} {c : Comparison α} (h : read? operand t = some c) : read? other t = none := by
  have hmarked {rest : Text} {form : α → Comparison α} (hform : (operand rest).map form = some c) :
      other rest = none := by
    obtain ⟨v, hv, -⟩ := Option.map_eq_some_iff.1 hform
    exact hother hv
  rw [read?] at h ⊢
  split at h
  · simp [hmarked h]
  · simp [hmarked h]
  · simp [hmarked h]
  · simp [hmarked h]
  · split at h
    · next low high hcut =>
        cases hlow : operand low with
        | none => simp [hlow] at h
        | some l => simp [hother hlow]
    · simp [hmarked h]

end Comparison

theorem DateCondition.read?_of_dates {t : Text} {c : Comparison Date} (h : Comparison.read? Date.read? t = some c) :
    DateCondition.read? t = some (.date c) := by
  rw [DateCondition.read?, h]

theorem DateCondition.read?_of_integers {t : Text} {c : Comparison Int} (h : Comparison.read? readInteger? t = some c) :
    DateCondition.read? t = some (.age c) := by
  have hnone : Comparison.read? Date.read? t = none := Comparison.read?_eq_none Date.read?_of_readInteger? h
  rw [DateCondition.read?, hnone, h]
  rfl

end Triage
