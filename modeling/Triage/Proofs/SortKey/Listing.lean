import Mathlib.Data.List.Forall2
import Triage.Proofs.Qualifier.Folding
import Triage.Proofs.Text.Cutting
import Triage.Proofs.Text.Trimming

namespace Triage

open Text

namespace Text

theorem CaseBlind.all_eq_of_sameWord {p : Char → Bool} (hp : CaseBlind p) {s t : Text} (h : s.sameWord t) :
    s.all p = t.all p := by
  rw [← hp.all_lowerAscii s, sameWord_iff.1 h, hp.all_lowerAscii]

end Text

theorem SortField.read?_eq_some_iff {field : SortField} {name : Text} :
    Vocabulary.read? name = some field ↔ name.sameWord (Vocabulary.preferred field) := by
  apply Vocabulary.read?_eq_some_iff_of_others
  all_goals cases field <;> decide

namespace SortKey

def isNameChar (c : Char) : Bool := !isBlank c && c != ',' && c != '-'

theorem caseBlind_isNameChar : CaseBlind isNameChar := Casing.apply_toLower (by decide)

theorem all_isNameChar {field : SortField} {name : Text} (h : name.sameWord (Vocabulary.preferred field)) :
    ∀ c ∈ name, isNameChar c := by
  rw [← List.all_eq_true, caseBlind_isNameChar.all_eq_of_sameWord h]
  cases field <;> decide

def marked (descending : Bool) (name : Text) : Text := if descending then '-' :: name else name

def Spells (part : Text) (key : SortKey) : Prop :=
  ∃ name, name.sameWord (Vocabulary.preferred key.field) ∧ part.Spaced (marked key.descending name)

def FirstFaulty (content part : Text) : Prop :=
  ∃ before after, content = [','].intercalate (before ++ part :: after) ∧ (∀ p ∈ before ++ part :: after, ',' ∉ p) ∧
    (∀ p ∈ before, ∃ key, Spells p key) ∧ ∀ key, ¬ Spells part key

def Lists (content : Text) (keys : List SortKey) : Prop :=
  keys ≠ [] ∧ ∃ parts, List.Forall₂ Spells parts keys ∧ content = [','].intercalate parts

theorem read?_marked {key : SortKey} {name : Text} (h : name.sameWord (Vocabulary.preferred key.field)) :
    read? (marked key.descending name) = some key := by
  obtain ⟨field, descending⟩ := key
  have hname : Vocabulary.read? name = some field := SortField.read?_eq_some_iff.2 h
  cases descending with
  | true =>
      show (Vocabulary.read? name).map _ = _
      rw [hname]
      rfl
  | false =>
      have hhyphen : dropPrefix? ['-'] name = none := dropPrefix?_eq_none fun rest hrest => by
        have hmem : '-' ∈ name := hrest ▸ List.mem_cons_self
        exact absurd (all_isNameChar h '-' hmem) (by decide)
      show read? name = _
      rw [read?_eq, hhyphen, hname]
      rfl

theorem exists_name_of_read? {t : Text} {key : SortKey} (h : read? t = some key) :
    ∃ name, name.sameWord (Vocabulary.preferred key.field) ∧ t = marked key.descending name := by
  rw [read?_eq] at h
  split at h
  · next name hhyphen =>
      obtain ⟨field, hfield, rfl⟩ := Option.map_eq_some_iff.1 h
      exact ⟨name, SortField.read?_eq_some_iff.1 hfield, dropPrefix?_eq_some_iff.1 hhyphen⟩
  · obtain ⟨field, hfield, rfl⟩ := Option.map_eq_some_iff.1 h
    exact ⟨t, SortField.read?_eq_some_iff.1 hfield, rfl⟩

theorem isBlank_marked {key : SortKey} {name : Text} (h : name.sameWord (Vocabulary.preferred key.field)) :
    ∀ c ∈ marked key.descending name, isBlank c = false := by
  have hname : ∀ c ∈ name, isBlank c = false := by
    intro c hc
    have hchar := all_isNameChar h c hc
    simp only [isNameChar, Bool.and_eq_true, Bool.not_eq_true'] at hchar
    exact hchar.1.1
  rw [marked]
  split
  · exact List.forall_mem_cons.2 ⟨by decide, hname⟩
  · exact hname

theorem read?_trim_iff_spells {part : Text} {key : SortKey} : read? part.trim = some key ↔ Spells part key := by
  constructor
  · intro h
    obtain ⟨name, hname, htrim⟩ := exists_name_of_read? h
    exact ⟨name, hname, htrim ▸ spaced_trim part⟩
  · rintro ⟨name, hname, hspaced⟩
    rw [hspaced.trim_eq, trim_of_not_isBlank (isBlank_marked hname), read?_marked hname]

theorem Spells.comma_not_mem {part : Text} {key : SortKey} (h : Spells part key) : ',' ∉ part := by
  obtain ⟨name, hname, before, after, hbefore, hafter, rfl⟩ := h
  have hblanks {s : Text} (hs : s.all isBlank) : ',' ∉ s := fun hmem =>
    absurd (List.all_eq_true.1 hs ',' hmem) (by decide)
  have hmarked : ',' ∉ marked key.descending name := by
    have hcomma : ',' ∉ name := fun hmem => absurd (all_isNameChar hname ',' hmem) (by decide)
    rw [marked]
    split
    · exact mt List.mem_cons.1 (not_or.2 ⟨by decide, hcomma⟩)
    · exact hcomma
  simp only [List.mem_append, not_or]
  exact ⟨⟨hblanks hbefore, hmarked⟩, hblanks hafter⟩

theorem comma_not_mem_of_spells {parts : List Text} {keys : List SortKey} (h : List.Forall₂ Spells parts keys) :
    ∀ part ∈ parts, ',' ∉ part := by
  induction h with
  | nil => simp
  | cons hspells _ ih => exact List.forall_mem_cons.2 ⟨hspells.comma_not_mem, ih⟩

theorem readParts_eq_ok_iff {parts : List Text} {keys : List SortKey} :
    readParts parts = .ok keys ↔ List.Forall₂ (fun part key => read? part = some key) parts keys := by
  induction parts generalizing keys with
  | nil => cases keys <;> simp [readParts]
  | cons part parts ih =>
      rw [readParts, List.forall₂_cons_left_iff]
      simp only [← ih]
      cases read? part with
      | none => simp
      | some key => cases readParts parts <;> simp [Except.map, eq_comm]

theorem readParts_eq_error_iff {parts : List Text} {fault : Text} :
    readParts parts = .error fault ↔
      ∃ before after, parts = before ++ fault :: after ∧ (∀ part ∈ before, ∃ key, read? part = some key) ∧
        read? fault = none := by
  constructor
  · intro h
    induction parts with
    | nil => cases h
    | cons part parts ih =>
        rw [readParts] at h
        split at h
        · next hnone =>
            cases h
            exact ⟨[], parts, rfl, by simp, hnone⟩
        · next key hkey =>
            cases hrest : readParts parts with
            | ok rest =>
                rw [hrest] at h
                cases h
            | error first =>
                rw [hrest] at h
                cases h
                obtain ⟨before, after, rfl, hbefore, hnone⟩ := ih hrest
                exact ⟨part :: before, after, rfl, List.forall_mem_cons.2 ⟨⟨key, hkey⟩, hbefore⟩, hnone⟩
  · rintro ⟨before, after, rfl, hbefore, hnone⟩
    induction before with
    | nil => rw [List.nil_append, readParts, hnone]
    | cons part before ih =>
        obtain ⟨⟨key, hkey⟩, hbefore⟩ := List.forall_mem_cons.1 hbefore
        rw [List.cons_append, readParts, hkey]
        simp only [ih hbefore, Except.map]

theorem readAll_eq_ok_iff {content : Text} {keys : List SortKey} : readAll content = .ok keys ↔ Lists content keys := by
  rw [readAll, readParts_eq_ok_iff, List.forall₂_map_left_iff]
  simp only [read?_trim_iff_spells]
  constructor
  · intro h
    refine ⟨?_, content.fields ',', h, (intercalate_fields ',' content).symm⟩
    rintro rfl
    exact fields_ne_nil ',' content (List.forall₂_nil_right_iff.1 h)
  · rintro ⟨hne, parts, hparts, rfl⟩
    have hsome : parts ≠ [] := by
      rintro rfl
      exact hne (List.forall₂_nil_left_iff.1 hparts)
    rw [fields_intercalate hsome (comma_not_mem_of_spells hparts)]
    exact hparts

theorem readAll_eq_error_iff {content fault : Text} :
    readAll content = .error fault ↔ ∃ part, FirstFaulty content part ∧ fault = part.trim := by
  have hnone {part : Text} : read? part.trim = none ↔ ∀ key, ¬ Spells part key := by
    simp only [Option.eq_none_iff_forall_ne_some, ne_eq, read?_trim_iff_spells]
  rw [readAll, readParts_eq_error_iff]
  constructor
  · rintro ⟨before', after', hparts, hbefore, hfault⟩
    obtain ⟨before, rest, hfields, rfl, hrest⟩ := List.map_eq_append_iff.1 hparts
    obtain ⟨part, after, rfl, rfl, -⟩ := List.map_eq_cons_iff.1 hrest
    refine ⟨part, ⟨before, after, ?_, ?_, ?_, hnone.1 hfault⟩, rfl⟩
    · rw [← hfields, intercalate_fields]
    · exact fun p hp => not_mem_of_mem_fields (hfields ▸ hp)
    · exact fun p hp => (hbefore (trim p) (List.mem_map_of_mem hp)).imp fun _ => read?_trim_iff_spells.1
  · rintro ⟨part, ⟨before, after, rfl, hcommas, hbefore, hfault⟩, rfl⟩
    rw [fields_intercalate (by simp) hcommas, List.map_append, List.map_cons]
    refine ⟨before.map trim, after.map trim, rfl, ?_, hnone.2 hfault⟩
    exact List.forall_mem_map.2 fun p hp => (hbefore p hp).imp fun _ => read?_trim_iff_spells.2

theorem parse_decodes (content : Text) :
    (∀ keys, parse content = .ok keys ↔ Lists content keys) ∧
    (∀ fault, parse content = .error fault ↔
      ∃ part, FirstFaulty content part ∧ fault = .unknownSortKey part.trim) ∧
    ((∃ keys, Lists content keys) ∨ ∃ part, FirstFaulty content part) := by
  simp only [← readAll_eq_ok_iff, parse]
  cases hread : readAll content with
  | ok keys =>
      refine ⟨fun _ => by simp [Except.mapError], fun fault => ?_, .inl ⟨keys, rfl⟩⟩
      simp only [Except.mapError, reduceCtorEq, false_iff]
      rintro ⟨part, hpart, -⟩
      rw [readAll_eq_error_iff.2 ⟨part, hpart, rfl⟩] at hread
      cases hread
  | error first =>
      obtain ⟨part, hpart, rfl⟩ := readAll_eq_error_iff.1 hread
      refine ⟨fun _ => by simp [Except.mapError], fun fault => ?_, .inr ⟨part, hpart⟩⟩
      constructor
      · intro h
        exact ⟨part, hpart, (Except.error.inj h).symm⟩
      · rintro ⟨other, hother, rfl⟩
        rw [readAll_eq_error_iff.2 ⟨other, hother, rfl⟩] at hread
        rw [Except.error.inj hread]
        rfl

/-- Blanks may stand before a hyphen, and not after it. -/
example : parse " -CREATED,id,\t-created ".toList = .ok [⟨.created, true⟩, ⟨.id, false⟩, ⟨.created, true⟩] ∧
    parse "id, - created ,size".toList = .error (.unknownSortKey "- created".toList) := by decide

end SortKey

end Triage
