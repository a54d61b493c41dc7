import Triage.Proofs.Filter.CanonicalDerivation
import Triage.Proofs.Filter.Complaints

namespace Triage

namespace Filter

open Text Lexer Grammar

theorem scan_print {f : Filter} (h : f.Printable) : Token.scan f.print = locate .origin f.pieces := by
  rw [Token.scan, pieces_print h]

theorem scan_print_everything : Token.scan (print .everything) = [] := by
  simp [print, Token.scan, Lexer.pieces, locate]

theorem derives_print {f : Filter} (h : f.Printable) : Derives .disjunction (Token.scan f.print) f f.nesting := by
  rw [scan_print h]
  exact derives_disjunction (derives_pieces h .origin)

theorem accepts_print {source : Text} {f : Filter} (h : Accepts (Token.scan source) f) :
    Accepts (Token.scan f.print) f := by
  rcases h with ⟨-, rfl⟩ | ⟨hlen, n, hd, hn⟩
  · exact .inl ⟨scan_print_everything, rfl⟩
  · have hprint : f.Printable := printable_of_derives hd fun t ht => Token.fits_of_mem_scan ht
    obtain ⟨hcount, hnesting⟩ := canonical_le hd
    refine .inr ⟨?_, f.nesting, derives_print hprint, by omega⟩
    rw [scan_print hprint, length_locate]
    omega

def WithinLimits (f : Filter) : Prop := (Token.scan f.print).length ≤ 1024 ∧ f.nesting ≤ 64

theorem accepts_print_iff {f : Filter} (h : f = .everything ∨ f.Printable) :
    Accepts (Token.scan f.print) f ↔ f.WithinLimits := by
  rcases h with rfl | h
  · rw [WithinLimits, scan_print_everything]
    exact iff_of_true (.inl ⟨rfl, rfl⟩) ⟨Nat.zero_le _, Nat.zero_le _⟩
  · have hderives := derives_print h
    constructor
    · rintro (⟨hnil, -⟩ | ⟨hlength, n, hd, hn⟩)
      · exact absurd hnil hderives.ne_nil
      · obtain ⟨-, rfl⟩ := derives_unique hderives hd
        exact ⟨hlength, hn⟩
    · rintro ⟨hlength, hn⟩
      exact .inr ⟨hlength, f.nesting, hderives, hn⟩

theorem compile_printTerm {name content : Text} (hn : name.isName) (hq : '"' ∉ content) :
    (compile (printTerm name content)).filter = .term name content := by
  have hprintable : (term name content).Printable := ⟨hn, hq⟩
  have hcount := tokenCount_termPieces_le name content
  have hlimits : (term name content).WithinLimits := by
    refine ⟨?_, Nat.zero_le _⟩
    rw [scan_print hprintable, length_locate, pieces]
    omega
  exact (parsed_of_accepts ((accepts_print_iff (.inr hprintable)).2 hlimits)).1

theorem compile_bare {name content : Text} (hn : name.isName) (hkeyword : name ≠ keywordName) (hne : content ≠ [])
    (hcontent : content.all isContentChar) : (compile (name ++ ':' :: content)).filter = .term name content := by
  have hquote : '"' ∉ content := fun h => absurd (List.all_eq_true.1 hcontent _ h) (by decide)
  have hprint : printTerm name content = name ++ ':' :: content := by
    rw [printTerm, if_neg hkeyword, if_pos ⟨hne, hcontent⟩]
  rw [← hprint, compile_printTerm hn hquote]

theorem eq_of_accepts_print {f g : Filter} (h : f = .everything ∨ f.Printable)
    (hg : Accepts (Token.scan f.print) g) : g = f := by
  rcases h with rfl | h
  · rw [scan_print_everything] at hg
    rcases hg with ⟨-, rfl⟩ | ⟨-, n, hd, -⟩
    · rfl
    · exact absurd rfl hd.ne_nil
  · have hderives := derives_print h
    rcases hg with ⟨hnil, -⟩ | ⟨-, n, hd, -⟩
    · exact absurd hnil hderives.ne_nil
    · exact (derives_unique hd hderives).1

theorem accepts_compile (source : Text) :
    Accepts (Token.scan (compile source).filter.print) (compile source).filter := by
  by_cases h : ∃ f, Accepts (Token.scan source) f
  · obtain ⟨f, hf⟩ := h
    rw [(parsed_of_accepts hf).1]
    exact accepts_print hf
  · obtain ⟨rs, m, hc⟩ := compile_of_not_accepts (not_exists.1 h)
    rw [hc]
    exact .inl ⟨scan_print_everything, rfl⟩

theorem recompile_print (source : Text) :
    let compiled := compile source
    let again := compile compiled.filter.print
    again.filter = compiled.filter ∧ again.Parsed ∧
      (compiled.Parsed → again.semanticMessages = compiled.semanticMessages) ∧
      Accepts (Token.scan compiled.filter.print) compiled.filter := by
  have hprint := accepts_compile source
  obtain ⟨hfilter, hparsed⟩ := parsed_of_accepts hprint
  refine ⟨hfilter, hparsed, fun hp => ?_, hprint⟩
  rw [semanticMessages_of_accepts hprint, semanticMessages_of_accepts (accepts_of_parsed hp)]

theorem compile_print {f : Filter} (h : f = .everything ∨ f.Printable) :
    (f ≠ .everything → Derives .disjunction (Token.scan f.print) f f.nesting) ∧
    ((compile f.print).filter = f ∧ (compile f.print).Parsed ↔ f.WithinLimits) ∧
    (¬ f.WithinLimits → (compile f.print).filter = .everything ∧
      ∃ before last, (compile f.print).diagnostics = before ++ [last] ∧ last.kind = .syntactic ∧
        ∀ d ∈ before, d.kind = .semantic) := by
  refine ⟨fun hf => derives_print (h.resolve_left hf), ⟨?_, fun hlimits => ?_⟩, fun hlimits => ?_⟩
  · rintro ⟨hfilter, hp⟩
    have haccepts := accepts_of_parsed hp
    rw [hfilter] at haccepts
    exact (accepts_print_iff h).1 haccepts
  · exact parsed_of_accepts ((accepts_print_iff h).2 hlimits)
  · have hnone : ∀ g, ¬ Accepts (Token.scan f.print) g := by
      intro g hg
      obtain rfl := eq_of_accepts_print h hg
      exact hlimits ((accepts_print_iff h).1 hg)
    obtain ⟨rs, m, hc⟩ := compile_of_not_accepts hnone
    rw [hc]
    exact ⟨rfl, _, _, rfl, rfl, fun d hd => kind_of_mem_filterMap hd⟩

def knotty : Filter :=
  .disj (.term keywordName "-x".toList)
    (.disj (.neg (.conj (.term "label".toList "a || b".toList) (.term keywordName "not".toList)))
      (.conj (.term "milestone".toList []) (.conj (.term "Ünknown".toList "(".toList) (.term keywordName "é".toList))))

theorem printable_knotty : knotty.Printable := by
  simp only [knotty, Printable]
  decide

theorem compile_print_knotty : (knotty = .everything ∨ knotty.Printable) ∧ knotty.WithinLimits ∧
    (compile knotty.print).filter = knotty ∧ (compile knotty.print).Parsed := by
  have hlimits : knotty.WithinLimits := by
    rw [WithinLimits, scan_print printable_knotty, length_locate]
    decide
  have h : knotty = .everything ∨ knotty.Printable := .inr printable_knotty
  exact ⟨h, hlimits, (compile_print h).2.1.2 hlimits⟩

end Filter

end Triage
