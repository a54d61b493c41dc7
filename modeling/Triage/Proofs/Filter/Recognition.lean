import Triage.Diagnostic
import Triage.Proofs.Filter.Completeness
import Triage.Proofs.Filter.Soundness

namespace Triage

def Compilation.Parsed (c : Compilation) : Prop := ∀ d ∈ c.diagnostics, d.kind ≠ .syntactic

theorem Reading.kind_of_diagnostic? {r : Reading} {d : Diagnostic} (h : r.diagnostic? = some d) :
    d.kind = .semantic := by
  rw [Reading.diagnostic?] at h
  split at h
  · cases h
  · cases h
    rfl

namespace Filter

open Grammar

theorem read_of_derives {ts : List Token} {f : Filter} {n : Nat} (h : Derives .disjunction ts f n) (hn : n ≤ 64)
    (finish : Token) : ∃ rs, rs.map Reading.term = f.terms ∧ Draft.read finish {} ts = ⟨rs, .ok f⟩ := by
  obtain ⟨l, rs, hrun, ⟨hf, -⟩, hrs⟩ := Draft.reaches_of_derives h {} ⟨rfl, rfl⟩
  have hcomplete : (Draft.settle {} l rs).complete? = some f := by simp [Draft.complete?, Draft.settle, hf]
  have hpeak : Draft.peak {} ts ≤ maxDepth := by rwa [hrun.peak, Draft.depth_start, Nat.zero_add]
  exact ⟨rs, hrs, Draft.read_of_run? hrun.run hpeak hcomplete finish⟩

theorem derives_unique {ts : List Token} {f g : Filter} {m n : Nat} (hf : Derives .disjunction ts f m)
    (hg : Derives .disjunction ts g n) : f = g ∧ m = n := by
  obtain ⟨l, rs, hrun, ⟨hl, -⟩, -⟩ := Draft.reaches_of_derives hf {} ⟨rfl, rfl⟩
  obtain ⟨l', rs', hrun', ⟨hl', -⟩, -⟩ := Draft.reaches_of_derives hg {} ⟨rfl, rfl⟩
  have hdraft := Option.some.inj (hrun.run.symm.trans hrun'.run)
  have hlevel : l = l' := congrArg Draft.level hdraft
  have hpeak := hrun.peak.symm.trans hrun'.peak
  rw [hlevel, hl'] at hl
  exact ⟨(Option.some.inj hl).symm, Nat.add_left_cancel hpeak⟩

theorem accepts_unique {ts : List Token} {f g : Filter} (hf : Accepts ts f) (hg : Accepts ts g) : f = g := by
  rcases hf with ⟨hts, rfl⟩ | ⟨-, m, hf, -⟩ <;> rcases hg with ⟨hts', rfl⟩ | ⟨-, n, hg, -⟩
  · rfl
  · exact absurd hts hg.ne_nil
  · exact absurd hts' hf.ne_nil
  · exact (derives_unique hf hg).1

theorem read_of_accepts {source : Text} {f : Filter} (h : Accepts (Token.scan source) f) :
    ∃ rs, rs.map Reading.term = f.terms ∧ read source = ⟨rs, .ok f⟩ := by
  rcases h with ⟨hts, rfl⟩ | ⟨hlen, n, hd, hn⟩
  · exact ⟨[], rfl, by simp [read, hts]⟩
  · obtain ⟨rs, hrs, hr⟩ := read_of_derives hd hn (Token.finish source)
    have hnone : (Token.scan source)[maxTokens]? = none := List.getElem?_eq_none hlen
    exact ⟨rs, hrs, by simp [read, hd.ne_nil, hnone, hr]⟩

theorem accepts_of_read {source : Text} {f : Filter} (h : (read source).result = .ok f) :
    Accepts (Token.scan source) f := by
  simp only [read] at h
  split at h
  · next hts =>
      cases h
      exact .inl ⟨hts, rfl⟩
  · split at h
    · cases h
    · next hnone =>
        obtain ⟨e, hrun, hpeak, hf⟩ := Draft.run?_of_read h
        obtain ⟨n, hd⟩ := Draft.derives_of_run? hrun hf
        obtain ⟨l, rs, hrun', -, -⟩ := Draft.reaches_of_derives hd {} ⟨rfl, rfl⟩
        rw [hrun'.peak, Draft.depth_start, Nat.zero_add] at hpeak
        exact .inr ⟨List.getElem?_eq_none_iff.1 hnone, n, hd, hpeak⟩

theorem compile_of_accepts {source : Text} {f : Filter} (h : Accepts (Token.scan source) f) :
    ∃ rs : List Reading, rs.map Reading.term = f.terms ∧ compile source = ⟨f, rs.filterMap Reading.diagnostic?⟩ := by
  obtain ⟨rs, hrs, hr⟩ := read_of_accepts h
  exact ⟨rs, hrs, by simp [compile, hr]⟩

theorem compile_of_not_accepts {source : Text} (h : ∀ f, ¬ Accepts (Token.scan source) f) :
    ∃ (rs : List Reading) (m : Misreading),
      compile source = ⟨.everything, rs.filterMap Reading.diagnostic? ++ [m.diagnostic]⟩ := by
  cases hr : (read source).result with
  | ok f => exact absurd (accepts_of_read hr) (h f)
  | error m => exact ⟨(read source).readings, m, by simp [compile, hr]⟩

theorem kind_of_mem_filterMap {rs : List Reading} {d : Diagnostic} (h : d ∈ rs.filterMap Reading.diagnostic?) :
    d.kind = .semantic := by
  obtain ⟨r, -, hr⟩ := List.mem_filterMap.1 h
  exact Reading.kind_of_diagnostic? hr

theorem parsed_of_accepts {source : Text} {f : Filter} (h : Accepts (Token.scan source) f) :
    (compile source).filter = f ∧ (compile source).Parsed := by
  obtain ⟨rs, -, hc⟩ := compile_of_accepts h
  rw [hc]
  refine ⟨rfl, fun d hd => ?_⟩
  rw [kind_of_mem_filterMap hd]
  decide

theorem accepts_of_parsed {source : Text} (h : (compile source).Parsed) :
    Accepts (Token.scan source) (compile source).filter := by
  by_cases hex : ∃ f, Accepts (Token.scan source) f
  · obtain ⟨f, hf⟩ := hex
    rwa [(parsed_of_accepts hf).1]
  · obtain ⟨rs, m, hc⟩ := compile_of_not_accepts (not_exists.1 hex)
    rw [hc] at h
    exact absurd rfl (h m.diagnostic (by simp))

theorem compile_recognises (source : Text) :
    (∀ f, (compile source).filter = f ∧ (compile source).Parsed ↔ Accepts (Token.scan source) f) ∧
    (∀ f g, Accepts (Token.scan source) f → Accepts (Token.scan source) g → f = g) ∧
    ((∀ f, ¬ Accepts (Token.scan source) f) → (compile source).filter = .everything ∧
      ∃ before last, (compile source).diagnostics = before ++ [last] ∧ last.kind = .syntactic ∧
        ∀ d ∈ before, d.kind = .semantic) := by
  refine ⟨fun f => ⟨?_, parsed_of_accepts⟩, fun f g => accepts_unique, fun h => ?_⟩
  · rintro ⟨rfl, hp⟩
    exact accepts_of_parsed hp
  · obtain ⟨rs, m, hc⟩ := compile_of_not_accepts h
    rw [hc]
    exact ⟨rfl, _, _, rfl, rfl, fun d hd => kind_of_mem_filterMap hd⟩

end Filter

end Triage
