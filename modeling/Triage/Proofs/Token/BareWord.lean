import Triage.Proofs.Token.Coverage

namespace Triage

namespace Lexer

open Text

theorem isBareWord_of_wordKind {t : Text} (ht : t.isName) (h : wordKind t = .content none) : t.isBareWord := by
  refine (isBareWord_iff t).2 ⟨ht, ?_⟩
  rw [wordKind] at h
  split at h
  · cases h
  split at h
  · cases h
  split at h
  · cases h
  · next hand hor hnot =>
      rw [Bool.not_eq_true] at hand hor hnot
      exact List.forall_mem_cons.2 ⟨hand, List.forall_mem_cons.2 ⟨hor, List.forall_mem_singleton.2 hnot⟩⟩

theorem isBareWord_of_locate {c : Char} {cs : Text} (hc : isContentChar c) {rest : List Piece} {w : Token}
    {ws : List Token} (hw : w.kind = .content none) (hlexeme : w.lexeme = c :: cs)
    (h : locate .origin ((step c cs).1 ++ rest) = w :: ws) : isBareWord (c :: cs) := by
  revert h
  apply step_elim (P := fun cut => locate .origin (cut.1 ++ rest) = w :: ws → isBareWord (c :: cs))
  case hsign =>
    rintro k t left hk - - ⟨⟩
    obtain rfl : k = .content none := hw
    exact hk.elim
  case hblank =>
    intro hblank
    simp [isContentChar, hblank] at hc
  case hstring =>
    rw [string]
    split
    · rintro ⟨⟩
      cases hw
    · rintro ⟨⟩
      cases hw
  case hword =>
    intro hword hn
    rw [word]
    split
    · rintro ⟨⟩
      cases hw
    · rintro ⟨⟩
      -- The word ends only where the text does, and is no operator.
      have hrun : c :: cs.takeWhile isWordChar = c :: cs := hlexeme
      have hcs : ∀ x ∈ cs, isWordChar x := List.takeWhile_eq_self_iff.1 (List.cons.inj hrun).2
      have hname : isName (c :: cs) := by simpa [isName, hn, hword] using hcs
      have hkind : wordKind (c :: cs.takeWhile isWordChar) = .content none := hw
      rw [hrun] at hkind
      exact isBareWord_of_wordKind hname hkind

end Lexer

namespace Token

open Lexer

theorem all_of_isBareWord {t : Text} (h : t.isBareWord) : all t = [⟨.content none, t, .origin⟩, finish t] := by
  have hstops : Text.Stops [] := nofun
  have hpieces := pieces_bareWord h hstops
  rw [List.append_nil, pieces] at hpieces
  rw [all, scan, hpieces]
  rfl

theorem kind_of_literal?_none {t : Token} (hk : t.kind.isContent) (h : t.literal? = none) : t.kind = .content none := by
  rw [literal?] at h
  cases hkind : t.kind with
  | content quoted =>
      rw [hkind] at h
      exact congrArg Kind.content h
  | _ => simp [hkind, Kind.isContent] at hk

theorem isBareWord_iff_one_token (t : Text) :
    t.isBareWord ↔
      ∃ word last, all t = [word, last] ∧ word.kind.isContent ∧ word.literal? = none ∧ word.lexeme = t ∧
        last.kind = .finish := by
  constructor
  · intro h
    exact ⟨_, _, all_of_isBareWord h, rfl, rfl, rfl, rfl⟩
  · rintro ⟨word, last, hall, hk, hliteral, rfl, -⟩
    have hword := kind_of_literal?_none hk hliteral
    have hsplit : scan word.lexeme ++ [finish word.lexeme] = [word] ++ [last] := hall
    obtain ⟨hscan, -⟩ := List.append_inj' hsplit rfl
    have hfits := fits_of_mem_scan (hscan ▸ List.mem_singleton_self word)
    rw [hword] at hfits
    obtain ⟨hne, hchars⟩ := hfits
    obtain ⟨c, cs, hlexeme⟩ := List.exists_cons_of_ne_nil hne
    rw [hlexeme] at hscan hchars ⊢
    rw [scan, pieces_cons] at hscan
    exact isBareWord_of_locate (hchars c List.mem_cons_self) hword hlexeme hscan

end Token

end Triage
