import Triage.Text.Basic

namespace Triage.Text

theorem cut?_append_append {c : Char} {before : Text} (h : c ∉ before) (more rest : Text) :
    cut? (before ++ (c :: more) ++ rest) (c :: more) = some (before, rest) := by
  induction before with
  | nil =>
      have hdrop : dropPrefix? (c :: more) (c :: (more ++ rest)) = some rest := dropPrefix?_eq_some_iff.2 rfl
      rw [List.nil_append, List.cons_append, cut?, hdrop]
  | cons b before ih =>
      obtain ⟨hb, hbefore⟩ := not_or.1 (mt List.mem_cons.2 h)
      have hdrop : dropPrefix? (c :: more) (b :: (before ++ (c :: more) ++ rest)) = none := by simp [dropPrefix?, hb]
      rw [List.cons_append, List.cons_append, cut?, hdrop, ih hbefore]
      rfl

theorem cut?_eq_none {c : Char} {t : Text} (h : c ∉ t) (more : Text) : cut? t (c :: more) = none := by
  rw [Option.eq_none_iff_forall_ne_some]
  rintro ⟨before, rest⟩ hcut
  rw [eq_append_of_cut? hcut] at h
  simp at h

theorem cut?_append {c : Char} {before rest : Text} (h : c ∉ before) :
    cut? (before ++ c :: rest) [c] = some (before, rest) := by
  simpa using cut?_append_append h [] rest

theorem cut?_cons (c d : Char) (t : Text) :
    cut? (d :: t) [c] = if c = d then some ([], t) else (cut? t [c]).map fun (before, rest) => (d :: before, rest) := by
  by_cases h : c = d <;> simp [cut?, dropPrefix?, h]

theorem not_mem_of_cut? {t before rest : Text} {c : Char} (h : cut? t [c] = some (before, rest)) : c ∉ before := by
  induction t generalizing before with
  | nil => cases h
  | cons d t ih =>
      rw [cut?_cons] at h
      split at h
      · cases h
        exact List.not_mem_nil
      · next hd =>
          obtain ⟨⟨b, r⟩, hcut, hb⟩ := Option.map_eq_some_iff.1 h
          cases hb
          exact mt List.mem_cons.1 (not_or.2 ⟨hd, ih hcut⟩)

theorem fields_eq_splitOn (sep : Char) (t : Text) : fields sep t = t.splitOn sep := by
  induction t with
  | nil => rfl
  | cons c t ih =>
      rw [fields, List.splitOn_eq_splitOnP, List.splitOnP_cons_eq_if_modifyHead, ← List.splitOn_eq_splitOnP, ← ih]
      by_cases hc : c = sep
      · simp [hc]
      · have hparts : fields sep t ≠ [] := ih ▸ List.splitOnP_ne_nil _ _
        obtain ⟨part, parts, hfields⟩ := List.exists_cons_of_ne_nil hparts
        simp [hc, hfields]

theorem intercalate_fields (sep : Char) (t : Text) : [sep].intercalate (fields sep t) = t := by
  rw [fields_eq_splitOn, List.intercalate_splitOn]

theorem fields_intercalate {sep : Char} {parts : List Text} (hne : parts ≠ []) (h : ∀ part ∈ parts, sep ∉ part) :
    fields sep ([sep].intercalate parts) = parts := by
  rw [fields_eq_splitOn, List.splitOn_intercalate sep h hne]

theorem fields_ne_nil (sep : Char) (t : Text) : fields sep t ≠ [] := by
  rw [fields_eq_splitOn]
  exact List.splitOnP_ne_nil _ _

theorem not_mem_of_mem_fields {sep : Char} {t part : Text} (h : part ∈ fields sep t) : sep ∉ part := by
  induction t generalizing part with
  | nil =>
      rw [List.mem_singleton.1 h]
      exact List.not_mem_nil
  | cons c t ih =>
      rw [fields] at h
      split at h
      · rcases List.mem_cons.1 h with rfl | h
        · exact List.not_mem_nil
        · exact ih h
      · next hc =>
          split at h
          · rw [List.mem_singleton.1 h]
            exact mt List.mem_singleton.1 (Ne.symm hc)
          · next first rest hfields =>
              rw [hfields] at ih
              rcases List.mem_cons.1 h with rfl | h
              · exact mt List.mem_cons.1 (not_or.2 ⟨Ne.symm hc, ih List.mem_cons_self⟩)
              · exact ih (List.mem_cons_of_mem first h)

end Triage.Text
