import Triage.Proofs.Filter.Diagnosis

namespace Triage

open Text

def Text.LastLine (t line : Text) : Prop := '\n' ∉ line ∧ (t = line ∨ ∃ earlier, t = earlier ++ '\n' :: line)

def Text.Leads (before : Text) (line column : Nat) : Prop :=
  line = 1 + before.count '\n' ∧ ∃ last, before.LastLine last ∧ column = 1 + last.length

theorem Text.LastLine.feed (t : Text) : (t ++ ['\n']).LastLine [] := ⟨List.not_mem_nil, .inr ⟨t, rfl⟩⟩

theorem Text.LastLine.append {t line : Text} (h : t.LastLine line) {c : Char} (hc : c ≠ '\n') :
    (t ++ [c]).LastLine (line ++ [c]) := by
  obtain ⟨hline, rfl | ⟨earlier, rfl⟩⟩ := h
  · exact ⟨by simp [hline, hc.symm], .inl rfl⟩
  · exact ⟨by simp [hline, hc.symm], .inr ⟨earlier, by simp⟩⟩

namespace Position

structure After (before : Text) (p : Position) : Prop where
  offset : p.offset = before.byteSize
  leads : before.Leads p.line p.column

theorem after_origin : After [] origin := ⟨rfl, rfl, [], ⟨List.not_mem_nil, .inl rfl⟩, rfl⟩

theorem After.advance {before : Text} {p : Position} (h : After before p) (c : Char) :
    After (before ++ [c]) (p.advance c) := by
  obtain ⟨hoffset, hline, last, hlast, hcolumn⟩ := h
  refine ⟨by simp [hoffset], ?_⟩
  by_cases hc : c = '\n'
  · subst hc
    exact ⟨by simp [Position.advance, hline, Nat.add_assoc], [], .feed before, rfl⟩
  · refine ⟨by simp [Position.advance, hc, hline], last ++ [c], hlast.append hc, ?_⟩
    simp [Position.advance, hc, hcolumn, Nat.add_assoc]

theorem After.advanceOver {before : Text} {p : Position} (h : After before p) (t : Text) :
    After (before ++ t) (p.advanceOver t) := by
  induction t generalizing before p with
  | nil => rwa [List.append_nil]
  | cons c t ih =>
      have hrest := ih (h.advance c)
      rwa [List.append_assoc] at hrest

theorem after_advanceOver (t : Text) : After t (origin.advanceOver t) := after_origin.advanceOver t

end Position

structure Located (source : Text) (span : Span) (line column : Nat) : Prop where
  inside : span.start ≤ span.stop ∧ span.stop ≤ source.byteSize
  whole : ∃ inner, source.slice? span = some inner
  leads : ∃ before rest, source = before ++ rest ∧ before.byteSize = span.start ∧ before.Leads line column

namespace Token

open Lexer

theorem exists_before_of_mem_all {source : Text} {t : Token} (h : t ∈ all source) :
    ∃ before rest, source = before ++ rest ∧ t.position.After before := by
  rw [all_eq_locate] at h
  obtain ⟨before, after, hpieces, hp⟩ := exists_append_of_mem_locate h
  have hjoin : source = join before ++ join (token t.kind t.lexeme :: after) := by
    rw [← join_append, ← hpieces, join_pieces_finish]
  exact ⟨join before, _, hjoin, hp ▸ Position.after_advanceOver (join before)⟩

theorem located_of_mem_all {source inner : Text} {t : Token} {span : Span} (h : t ∈ all source)
    (hstart : span.start = t.span.start) (hslice : source.slice? span = some inner) :
    Located source span t.position.line t.position.column := by
  obtain ⟨before, rest, hsource, hbefore⟩ := exists_before_of_mem_all h
  exact ⟨le_of_slice? hslice, ⟨inner, hslice⟩, before, rest, hsource, hbefore.offset.symm.trans hstart.symm,
    hbefore.leads⟩

end Token

theorem Reading.located {source : Text} {vs ws : List Token} {rs : List Reading} (h : Filter.TermsIn vs rs)
    (hall : Token.all source = vs ++ ws) {r : Reading} (hr : r ∈ rs) {d : Diagnostic} (hd : r.diagnostic? = some d) :
    Located source d.span d.line d.column := by
  have hfirst : r.first ∈ Token.all source := hall ▸ List.mem_append_left ws (h.written r hr).mem.1
  obtain ⟨written, hslice⟩ := (h.standsIn hall hr).slice
  rw [Reading.diagnostic?] at hd
  split at hd
  · cases hd
  · cases hd
    exact Token.located_of_mem_all hfirst rfl hslice

theorem Misreading.located {source : Text} {m : Misreading} (h : m.token ∈ Token.all source) :
    Located source m.diagnostic.span m.diagnostic.line m.diagnostic.column :=
  Token.located_of_mem_all h rfl (Token.slice?_of_mem_all h)

namespace Filter

theorem mem_diagnostics {source : Text} {d : Diagnostic} (h : d ∈ (compile source).diagnostics) :
    (∃ r ∈ (read source).readings, r.diagnostic? = some d) ∨
      ∃ m, (read source).result = .error m ∧ d = m.diagnostic := by
  cases hr : (read source).result with
  | ok f =>
      simp only [compile, hr] at h
      exact .inl (List.mem_filterMap.1 h)
  | error m =>
      simp only [compile, hr] at h
      rcases List.mem_append.1 h with hd | hd
      · exact .inl (List.mem_filterMap.1 hd)
      · exact .inr ⟨m, rfl, List.mem_singleton.1 hd⟩

theorem places_located (source : Text) :
    (∀ t ∈ Token.all source, Located source t.span t.position.line t.position.column) ∧
    ∀ d ∈ (compile source).diagnostics, Located source d.span d.line d.column := by
  refine ⟨fun t ht => Token.located_of_mem_all ht rfl (Token.slice?_of_mem_all ht), fun d hd => ?_⟩
  obtain ⟨vs, ws, hall, hterms, hresult⟩ := divides_source source
  rcases mem_diagnostics hd with ⟨r, hr, hdiagnostic⟩ | ⟨m, hm, rfl⟩
  · exact Reading.located hterms hall hr hdiagnostic
  · have hmem : m.token ∈ ws := by simpa [hm] using hresult
    exact Misreading.located (hall ▸ List.mem_append_right vs hmem)

end Filter

end Triage
