import Triage.Proofs.Filter.Complaints
import Triage.Proofs.Filter.Placement

/-!
What is reported about a text that is not a filter. Faults of terms are found while the text is read, and so every term
that is whole before the token at which reading stops is reported on, although the filter is given up.
-/

namespace Triage

theorem Compilation.hasSemanticError_iff (c : Compilation) :
    c.hasSemanticError ↔ ∃ d ∈ c.diagnostics, d.kind = .semantic := by
  simp [hasSemanticError]

namespace Filter

open Draft

theorem isSome_diagnostic? (r : Reading) : r.diagnostic?.isSome = (complaint? r.term).isSome := by
  rw [← message_diagnostic?, Option.isSome_map]

theorem stops_source {source : Text} {m : Misreading} (h : (read source).result = .error m) :
    maxTokens < (Token.scan source).length ∧ (read source).readings = [] ∨
    ∃ vs begun t rest, Token.all source = vs ++ (begun ++ t :: rest) ∧ TermsIn vs (read source).readings ∧
      Begun begun ∧ m.token ∈ begun ++ [t] := by
  rw [read] at h ⊢
  split at h
  · cases h
  · next hnil =>
      split at h
      · next t ht =>
          obtain ⟨hlong, -⟩ := List.getElem?_eq_some_iff.1 ht
          exact .inl ⟨hlong, by simp [hnil]⟩
      · next hshort =>
          obtain ⟨vs, begun, t, rest, hall, hvs, hstop⟩ := stops_read gathers_start h
          exact .inr ⟨vs, begun, t, rest, hall, by simpa [hnil, hshort] using hvs, hstop⟩

theorem exists_misreading {source : Text} (h : ¬ (compile source).Parsed) : ∃ m, (read source).result = .error m := by
  cases hr : (read source).result with
  | ok f => exact absurd (parsed_of_accepts (accepts_of_read hr)).2 h
  | error m => exact ⟨m, rfl⟩

theorem hasSemanticError_of_misreading {source : Text} {m : Misreading} (h : (read source).result = .error m) :
    (compile source).hasSemanticError ↔ ∃ r ∈ (read source).readings, (complaint? r.term).isSome := by
  have hsyntactic : m.diagnostic.kind ≠ .semantic := nofun
  simp only [Compilation.hasSemanticError_iff, compile, h, List.mem_append, List.mem_filterMap, List.mem_singleton,
    ← isSome_diagnostic?, Option.isSome_iff_exists]
  constructor
  · rintro ⟨d, ⟨r, hr, hd⟩ | rfl, hkind⟩
    · exact ⟨r, hr, d, hd⟩
    · exact absurd hkind hsyntactic
  · rintro ⟨r, hr, d, hd⟩
    exact ⟨d, .inl ⟨r, hr, hd⟩, Reading.kind_of_diagnostic? hd⟩

theorem reported_until_stop {source : Text} (h : ¬ (compile source).Parsed) :
    ∃ (rs : List Reading) (m : Misreading),
      (compile source).diagnostics = rs.filterMap Reading.diagnostic? ++ [m.diagnostic] ∧
      ((compile source).hasSemanticError ↔ ∃ r ∈ rs, (complaint? r.term).isSome) ∧
      (1024 < (Token.scan source).length ∧ rs = [] ∨
        ∃ vs begun t rest, Token.all source = vs ++ (begun ++ t :: rest) ∧ TermsIn vs rs ∧ Begun begun ∧
          m.token ∈ begun ++ [t]) := by
  obtain ⟨m, hm⟩ := exists_misreading h
  exact ⟨(read source).readings, m, by simp [compile, hm], hasSemanticError_of_misreading hm, stops_source hm⟩

def unclosed : Text := "label:bug (id:buggy or".toList

theorem reported_until_stop_unclosed :
    ¬ (compile unclosed).Parsed ∧
    ∃ (rs : List Reading) (m : Misreading),
      (compile unclosed).diagnostics = rs.filterMap Reading.diagnostic? ++ [m.diagnostic] ∧
      ((compile unclosed).hasSemanticError ↔ ∃ r ∈ rs, (complaint? r.term).isSome) ∧
      (1024 < (Token.scan unclosed).length ∧ rs = [] ∨
        ∃ vs begun t rest, Token.all unclosed = vs ++ (begun ++ t :: rest) ∧ TermsIn vs rs ∧ Begun begun ∧
          m.token ∈ begun ++ [t]) := by
  have h : ¬ (compile unclosed).Parsed := by
    rw [Compilation.Parsed]
    decide +kernel
  exact ⟨h, reported_until_stop h⟩

theorem semantic_fault_unparsed :
    ¬ ∀ source, (∃ d ∈ (compile source).diagnostics, d.kind = .syntactic) →
      ∀ d ∈ (compile source).diagnostics, d.kind ≠ .semantic := by
  intro h
  have hsyntactic : ∃ d ∈ (compile "id:x )".toList).diagnostics, d.kind = .syntactic := by decide +kernel
  have hsemantic : ∃ d ∈ (compile "id:x )".toList).diagnostics, d.kind = .semantic := by decide +kernel
  obtain ⟨d, hd, hkind⟩ := hsemantic
  exact h _ hsyntactic d hd hkind

end Filter

end Triage
