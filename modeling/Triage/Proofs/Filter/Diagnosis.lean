import Triage.Proofs.Filter.Complaints
import Triage.Proofs.Filter.Placement

namespace Triage

theorem Reading.span_of_diagnostic? {r : Reading} {d : Diagnostic} (h : r.diagnostic? = some d) : d.span = r.span := by
  rw [Reading.diagnostic?] at h
  split at h
  · cases h
  · cases h
    rfl

theorem Reading.StandsIn.slice {source : Text} {r : Reading} (h : r.StandsIn source) :
    ∃ written, source.slice? r.span = some written := by
  obtain ⟨-, -, ⟨-, -, hslice⟩ | ⟨-, hslice⟩⟩ := h
  · exact ⟨_, hslice⟩
  · exact ⟨_, hslice⟩

def Span.Precedes (s t : Span) : Prop := s.start < t.start ∧ s.stop ≤ t.start

namespace Filter

open Grammar

theorem report_diagnostic? (r : Reading) :
    r.diagnostic?.map (fun d => (d.message, d.span)) = (complaint? r.term).map fun message => (message, r.span) := by
  rw [Reading.diagnostic?, complaint?, Reading.term]
  cases Qualifier.validate r.name r.content <;> rfl

section

variable {source : Text} {vs ws : List Token} {rs : List Reading}

theorem TermsIn.start_lt_stop (h : TermsIn vs rs) (hall : Token.all source = vs ++ ws) {r : Reading} (hr : r ∈ rs) :
    r.span.start < r.span.stop := by
  obtain ⟨hk, -, ⟨-, -, hslice⟩ | ⟨-, hslice⟩⟩ := h.standsIn hall hr
  · have hmem : r.last ∈ Token.all source := hall ▸ List.mem_append_left ws (h.written r hr).mem.2
    have hfinish : r.last.kind ≠ .finish := by
      intro hkind
      simp [hkind, Token.Kind.isContent] at hk
    have hsolid := Token.solid_of_mem_scan (Token.mem_scan_of_mem_all hmem hfinish)
    exact Text.lt_of_slice? hslice hsolid.2
  · exact Text.lt_of_slice? hslice (by simp)

theorem TermsIn.pairwise_diagnostics (h : TermsIn vs rs) (hall : Token.all source = vs ++ ws) :
    (rs.filterMap Reading.diagnostic?).Pairwise fun d e => d.span.Precedes e.span := by
  have htokens := Token.pairwise_all source
  rw [hall] at htokens
  have hordered := h.ordered (List.pairwise_append.1 htokens).1
  rw [List.pairwise_filterMap]
  apply hordered.imp_of_mem
  intro r s hr _ hrs d hd e he
  rw [Reading.span_of_diagnostic? hd, Reading.span_of_diagnostic? he]
  exact ⟨Nat.lt_of_lt_of_le (h.start_lt_stop hall hr) hrs, hrs⟩

theorem TermsIn.precedes_fault (h : TermsIn vs rs) (hall : Token.all source = vs ++ ws) {m : Misreading}
    (hm : m.token ∈ ws) : ∀ d ∈ rs.filterMap Reading.diagnostic?, d.span.Precedes m.diagnostic.span := by
  intro d hd
  obtain ⟨r, hr, hdiagnostic⟩ := List.mem_filterMap.1 hd
  have htokens := Token.pairwise_all source
  rw [hall] at htokens
  have hstop : r.span.stop ≤ m.token.span.start := (List.pairwise_append.1 htokens).2.2 _ (h.written r hr).mem.2 _ hm
  rw [Reading.span_of_diagnostic? hdiagnostic]
  exact ⟨Nat.lt_of_lt_of_le (h.start_lt_stop hall hr) hstop, hstop⟩

theorem TermsIn.slice_diagnostics (h : TermsIn vs rs) (hall : Token.all source = vs ++ ws) :
    ∀ d ∈ rs.filterMap Reading.diagnostic?, ∃ written, source.slice? d.span = some written := by
  intro d hd
  obtain ⟨r, hr, hdiagnostic⟩ := List.mem_filterMap.1 hd
  rw [Reading.span_of_diagnostic? hdiagnostic]
  exact (h.standsIn hall hr).slice

end

structure Orderly (source : Text) (ds : List Diagnostic) : Prop where
  kinds : ∃ semantic syntactic, ds = semantic ++ syntactic ∧ (∀ d ∈ semantic, d.kind = .semantic) ∧
    (∀ d ∈ syntactic, d.kind = .syntactic) ∧ syntactic.length ≤ 1
  inside : ∀ d ∈ ds, (source.slice? d.span).isSome ∧ d.span.stop ≤ source.byteSize
  ascending : ds.Pairwise fun d e => d.span.Precedes e.span

theorem orderly_diagnostics (source : Text) : Orderly source (compile source).diagnostics := by
  obtain ⟨vs, ws, hall, hterms, hresult⟩ := divides_source source
  have hinside : ∀ d : Diagnostic, (∃ written, source.slice? d.span = some written) →
      (source.slice? d.span).isSome ∧ d.span.stop ≤ source.byteSize := by
    rintro d ⟨written, hslice⟩
    exact ⟨by rw [hslice]; rfl, (Text.le_of_slice? hslice).2⟩
  have hslices := hterms.slice_diagnostics hall
  have hascending := hterms.pairwise_diagnostics hall
  cases hr : (read source).result with
  | ok f =>
      have hc : (compile source).diagnostics = (read source).readings.filterMap Reading.diagnostic? := by
        simp [compile, hr]
      rw [hc]
      refine ⟨⟨_, [], (List.append_nil _).symm, ?_, by simp, Nat.zero_le _⟩, ?_, hascending⟩
      · intro d hd
        exact kind_of_mem_filterMap hd
      · intro d hd
        exact hinside d (hslices d hd)
  | error m =>
      have hc : (compile source).diagnostics =
          (read source).readings.filterMap Reading.diagnostic? ++ [m.diagnostic] := by
        simp [compile, hr]
      have hm : m.token ∈ ws := by simpa [hr] using hresult
      rw [hc]
      constructor
      case kinds =>
        refine ⟨_, [m.diagnostic], rfl, fun d hd => kind_of_mem_filterMap hd, ?_, Nat.le_refl _⟩
        intro d hd
        rw [List.mem_singleton.1 hd]
        rfl
      case inside =>
        intro d hd
        rcases List.mem_append.1 hd with hd | hd
        · exact hinside d (hslices d hd)
        · have hmem : m.token ∈ Token.all source := hall ▸ List.mem_append_right vs hm
          rw [List.mem_singleton.1 hd]
          exact hinside m.diagnostic ⟨m.token.lexeme, Token.slice?_of_mem_all hmem⟩
      case ascending =>
        refine List.pairwise_append.2 ⟨hascending, List.pairwise_singleton _ _, ?_⟩
        intro d hd e he
        rw [List.mem_singleton.1 he]
        exact hterms.precedes_fault hall hm d hd

theorem termsIn_scan {source : Text} {f : Filter} (h : Accepts (Token.scan source) f) :
    ∃ rs, TermsIn (Token.scan source) rs ∧ (∀ r ∈ rs, r.StandsIn source) ∧ rs.map Reading.term = f.terms ∧
      (compile source).diagnostics = rs.filterMap Reading.diagnostic? := by
  obtain ⟨rs, hrs, hread⟩ := read_of_accepts h
  obtain ⟨vs, ws, hall, hterms, hresult⟩ := divides_source source
  rw [hread] at hterms hresult
  obtain ⟨hscan, -⟩ := List.append_inj' (hall : Token.scan source ++ [_] = vs ++ ws) hresult.symm
  refine ⟨rs, hscan ▸ hterms, fun r hr => hterms.standsIn hall hr, hrs, ?_⟩
  simp [compile, hread]

theorem diagnostics_mirror (source : Text) :
    let compiled := compile source
    Orderly source compiled.diagnostics ∧
    (compiled.Parsed → compiled.semanticMessages = compiled.filter.terms.filterMap complaint? ∧
      ∃ rs, TermsIn (Token.scan source) rs ∧ (∀ r ∈ rs, r.StandsIn source) ∧
        rs.map Reading.term = compiled.filter.terms ∧
        compiled.diagnostics.map (fun d => (d.message, d.span)) =
          rs.filterMap fun r => (complaint? r.term).map fun message => (message, r.span)) := by
  refine ⟨orderly_diagnostics source, fun hp => ⟨semanticMessages_of_accepts (accepts_of_parsed hp), ?_⟩⟩
  obtain ⟨rs, hterms, hstands, hrs, hdiagnostics⟩ := termsIn_scan (accepts_of_parsed hp)
  refine ⟨rs, hterms, hstands, hrs, ?_⟩
  rw [hdiagnostics, List.map_filterMap]
  simp only [report_diagnostic?]

end Filter

end Triage
