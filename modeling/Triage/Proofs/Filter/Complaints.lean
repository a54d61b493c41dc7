import Triage.Proofs.Filter.Recognition
import Triage.Proofs.Qualifier.Agreement

namespace Triage

def Compilation.semanticMessages (c : Compilation) : List String :=
  (c.diagnostics.filter fun d => d.kind == .semantic).map Diagnostic.message

namespace Filter

open Grammar Milestone

def complaint? (term : Text × Text) : Option String :=
  match Qualifier.validate term.1 term.2 with
  | .ok _ => none
  | .error fault => some fault.message

theorem message_diagnostic? (r : Reading) : r.diagnostic?.map Diagnostic.message = complaint? r.term := by
  rw [Reading.diagnostic?, complaint?, Reading.term]
  cases Qualifier.validate r.name r.content <;> rfl

theorem semanticMessages_of_accepts {source : Text} {f : Filter} (h : Accepts (Token.scan source) f) :
    (compile source).semanticMessages = f.terms.filterMap complaint? := by
  obtain ⟨rs, hrs, hc⟩ := compile_of_accepts h
  have hall : ∀ d ∈ rs.filterMap Reading.diagnostic?, (d.kind == Diagnostic.Kind.semantic) = true := by
    intro d hd
    rw [kind_of_mem_filterMap hd]
    rfl
  rw [Compilation.semanticMessages, hc, List.filter_eq_self.2 hall, List.map_filterMap, ← hrs, List.filterMap_map]
  simp only [message_diagnostic?, Function.comp_def]

def Complained (source : Text) (term : Text × Text) : Prop :=
  ∃ fault, Qualifier.validate term.1 term.2 = .error fault ∧
    ∃ d ∈ (compile source).diagnostics, d.kind = .semantic ∧ d.message = fault.message

theorem complained_of_error {source : Text} {term : Text × Text} {fault : SemanticFault}
    (hterm : term ∈ (compile source).filter.terms) (h : Qualifier.validate term.1 term.2 = .error fault) :
    Complained source term := by
  by_cases hex : ∃ f, Accepts (Token.scan source) f
  · obtain ⟨f, hf⟩ := hex
    obtain ⟨rs, hrs, hc⟩ := compile_of_accepts hf
    rw [hc, ← hrs] at hterm
    obtain ⟨r, hr, rfl⟩ := List.mem_map.1 hterm
    have hd : r.diagnostic?.map Diagnostic.message = some fault.message := by
      rw [message_diagnostic?, complaint?, h]
    obtain ⟨d, hd, hmessage⟩ := Option.map_eq_some_iff.1 hd
    refine ⟨fault, h, d, ?_, Reading.kind_of_diagnostic? hd, hmessage⟩
    rw [hc]
    exact List.mem_filterMap.2 ⟨r, hr, hd⟩
  · obtain ⟨rs, m, hc⟩ := compile_of_not_accepts (not_exists.1 hex)
    rw [hc] at hterm
    cases hterm

theorem validation_agrees (ctx : Context) :
    (∀ name content, Qualifier.Agrees ctx name content) ∧
    ∀ source, ∀ term ∈ (compile source).filter.terms,
      (Qualifier.predicateOf ctx term.1 term.2 = .all → Complained source term ∨
        Qualifier.validate term.1 term.2 = .ok .sort ∨ Qualifier.validate term.1 term.2 = .ok .count) ∧
      (Complained source term → Qualifier.predicateOf ctx term.1 term.2 = .all ∨
        Qualifier.predicateOf ctx term.1 term.2 = .nothing ∧ Qualifier.ofName? term.1 = some .milestone ∧
          Reference.read term.2 = .malformed) := by
  refine ⟨Qualifier.agrees ctx, fun source term hterm => ⟨fun hall => ?_, ?_⟩⟩
  · have hagrees := Qualifier.agrees ctx term.1 term.2
    cases h : Qualifier.validate term.1 term.2 with
    | error fault => exact .inl (complained_of_error hterm h)
    | ok q => rcases (hagrees.all_iff q h).1 hall with rfl | rfl <;> simp
  · rintro ⟨fault, h, -⟩
    have hagrees := Qualifier.agrees ctx term.1 term.2
    by_cases hname : Qualifier.ofName? term.1 = some .milestone
    · obtain ⟨hnothing, hread⟩ := hagrees.malformed fault h hname
      exact .inr ⟨hnothing, hname, hread⟩
    · exact .inl (hagrees.refused fault h hname)

end Filter

end Triage
