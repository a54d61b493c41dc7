import Triage.Proofs.Filter.Viability
import Triage.Proofs.Token.Fault

namespace Triage

open Text

structure Token.WellShaped (source : Text) (ts : List Token) : Prop where
  name : ∀ before name after, ts = before ++ name :: after → name.kind = .name →
    name.lexeme ≠ [] ∧ (∀ c ∈ name.lexeme, isWordChar c) ∧
      ∃ colon rest, after = colon :: rest ∧ colon.kind = .colon ∧ colon.span.start = name.span.stop
  content : ∀ t ∈ ts, t.kind.isContent →
    t.literal? = none ∧ t.lexeme ≠ [] ∧ (∀ c ∈ t.lexeme, isContentChar c) ∨
      ∃ literal, t.literal? = some literal ∧ '"' ∉ literal ∧ t.lexeme = '"' :: literal ++ ['"']
  fault : ∀ before t after cause, ts = before ++ t :: after → t.kind = .fault cause →
    (∃ c, t.lexeme = [c] ∧ isControl c) ∨
      t.lexeme.head? = some '"' ∧ t.span.stop = source.byteSize ∧ ∃ finish, after = [finish] ∧ finish.kind = .finish

theorem Text.chars_of_isName {t : Text} (h : t.isName) : t ≠ [] ∧ ∀ c ∈ t, isWordChar c := by
  cases t with
  | nil => simp [isName] at h
  | cons c cs =>
      simp only [isName, Bool.and_eq_true, List.all_eq_true] at h
      exact ⟨List.cons_ne_nil c cs, h.2⟩

namespace Token

theorem content_shape {t : Token} (hf : t.kind.Fits t.lexeme) (hk : t.kind.isContent) :
    t.literal? = none ∧ t.lexeme ≠ [] ∧ (∀ c ∈ t.lexeme, isContentChar c) ∨
      ∃ literal, t.literal? = some literal ∧ '"' ∉ literal ∧ t.lexeme = '"' :: literal ++ ['"'] := by
  rw [literal?]
  cases hkind : t.kind with
  | content quoted =>
      rw [hkind] at hf
      cases quoted with
      | none => exact .inl ⟨rfl, hf⟩
      | some inner => exact .inr ⟨inner, rfl, hf⟩
  | _ => simp [hkind, Kind.isContent] at hk

theorem wellShaped_all (source : Text) : WellShaped source (all source) where
  name := by
    intro before name after hall hk
    have hmem : name ∈ all source := hall ▸ List.mem_append_right before List.mem_cons_self
    have hf := fits_of_mem_scan (mem_scan_of_mem_all hmem (by simp [hk]))
    rw [hk] at hf
    obtain ⟨hne, hchars⟩ := chars_of_isName hf
    obtain ⟨colon, rest, hafter, hcolon, -, hstart⟩ := colon_of_name hall hk
    exact ⟨hne, hchars, colon, rest, hafter, hcolon, hstart⟩
  content := by
    intro t ht hk
    have hfinish : t.kind ≠ .finish := by
      intro hfinish
      simp [hfinish, Kind.isContent] at hk
    exact content_shape (fits_of_mem_scan (mem_scan_of_mem_all ht hfinish)) hk
  fault := by
    intro before t after cause hall hk
    obtain ⟨hfits, hopen⟩ := fault_shown hall hk
    cases cause with
    | controlCharacter => exact .inl hfits
    | unterminatedString =>
        obtain ⟨inner, hlexeme, -⟩ := hfits
        obtain ⟨hstop, hafter⟩ := hopen rfl
        exact .inr ⟨by rw [hlexeme]; rfl, hstop, finish source, hafter, rfl⟩

end Token

theorem not_prefix_toList_append {p : Text} {s : String} (hps : ¬ p <+: s.toList) (hsp : ¬ s.toList <+: p)
    (rest : String) : ¬ p <+: (s ++ rest).toList := by
  rw [String.toList_append]
  intro h
  rcases List.prefix_or_prefix_of_prefix h (List.prefix_append s.toList rest.toList) with h | h
  · exact hps h
  · exact hsp h

def expectedColonOpening : Text := "Expected ':' after".toList

theorem SyntaxFault.not_opening {fault : SyntaxFault} (h : ∀ name, fault ≠ .expectedColon name) :
    ¬ expectedColonOpening <+: fault.message.toList := by
  unfold message
  cases fault with
  | tooLong | tooDeep | expectedTerm | expectedClose => decide
  | lexical cause => cases cause <;> decide
  | expectedColon name => exact absurd rfl (h name)
  | unexpected text | expectedContent text =>
      simp only [String.append_assoc]
      exact not_prefix_toList_append (by decide) (by decide) _

theorem SemanticFault.not_opening (fault : SemanticFault) : ¬ expectedColonOpening <+: fault.message.toList := by
  unfold message
  cases fault with
  | unknownQualifier _ | invalidContent _ _ | unknownSortKey _ =>
      simp only [String.append_assoc]
      exact not_prefix_toList_append (by decide) (by decide) _

namespace Filter

theorem Draft.fault_blame_ne_expectedColon {d : Draft} {t : Token} (h : ∀ name, d.need ≠ .colon name) (name : Text) :
    (d.blame t).fault ≠ .expectedColon name := by
  have hrefuse : refuse t ≠ .expectedColon name := by
    unfold refuse
    split <;> simp
  rw [blame]
  split
  · simp
  · cases hn : d.need with
    | term => exact hrefuse
    | nothing =>
        dsimp only
        split
        · exact hrefuse
        · simp
    | colon name => exact absurd hn (h name)
    | content name colon =>
        dsimp only
        split <;> simp

theorem short_of_fault {source : Text} {m : Misreading} (h : (read source).result = .error m)
    (hfault : m.fault ≠ .tooLong) : (Token.scan source).length ≤ 1024 := by
  by_contra hlength
  have hlong : maxTokens < (Token.scan source).length := Nat.not_le.1 hlength
  have hne : Token.scan source ≠ [] := List.ne_nil_of_length_pos (Nat.zero_lt_of_lt hlong)
  simp only [read, hne, if_false, List.getElem?_eq_getElem hlong] at h
  cases h
  exact hfault rfl

theorem fault_ne_expectedColon {source : Text} {m : Misreading} (h : (read source).result = .error m) (name : Text) :
    m.fault ≠ .expectedColon name := by
  intro hfault
  have hshort := short_of_fault h (by simp [hfault])
  obtain ⟨before, t, after, d, hall, hrun, -, rfl, hstep, -⟩ := exists_stop hshort h (by simp [hfault])
  refine Draft.fault_blame_ne_expectedColon (fun name' hneed => ?_) name hfault
  have hcolon := Draft.colon_of_need hall hrun hneed
  simp [Draft.step?, hneed, hcolon] at hstep

theorem stream_wellShaped (source : Text) :
    Token.WellShaped source (Token.all source) ∧
    (∀ m, (read source).result = .error m → ∀ name, m.fault ≠ .expectedColon name) ∧
    ∀ d ∈ (compile source).diagnostics, ¬ "Expected ':' after".toList <+: d.message.toList := by
  refine ⟨Token.wellShaped_all source, fun m hm => fault_ne_expectedColon hm, fun d hd => ?_⟩
  rcases mem_diagnostics hd with ⟨r, -, hr⟩ | ⟨m, hm, rfl⟩
  · rw [Reading.diagnostic?] at hr
    split at hr
    · cases hr
    · cases hr
      exact SemanticFault.not_opening _
  · exact SyntaxFault.not_opening (fault_ne_expectedColon hm)

end Filter

end Triage
