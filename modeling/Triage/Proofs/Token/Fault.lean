import Triage.Proofs.Token.Coverage

/-!
Faulty tokens. One is a control character by itself or a string that no quote ends, and such a string goes on to the end of
the text, so that nothing comes after it.
-/

namespace Triage

open Text

def LexicalFault.Fits : LexicalFault → Text → Prop
  | .controlCharacter, t => ∃ c, t = [c] ∧ isControl c
  | .unterminatedString, t => ∃ inner, t = '"' :: inner ∧ '"' ∉ inner

namespace Lexer

/-- Whether all faulty pieces look as they are to, and nothing comes after an open string, with some text left over. -/
def FaultsShown (left : Text) : List Piece → Prop
  | [] => True
  | p :: ps =>
    (∀ cause, p.kind = some (.fault cause) →
      cause.Fits p.text ∧ (cause = .unterminatedString → ps = [] ∧ left = [])) ∧
    FaultsShown left ps

variable {left : Text} {ps qs : List Piece}

theorem FaultsShown.of_append (h : FaultsShown left (ps ++ qs)) : FaultsShown left qs := by
  induction ps with
  | nil => exact h
  | cons p ps ih => exact ih h.2

theorem FaultsShown.append {left' : Text} (hp : FaultsShown left ps) (hq : FaultsShown left' qs)
    (hend : left = [] → qs = [] ∧ left' = []) : FaultsShown left' (ps ++ qs) := by
  induction ps with
  | nil => exact hq
  | cons p ps ih =>
      refine ⟨fun cause hk => ?_, ih hp.2⟩
      obtain ⟨hfits, hlast⟩ := hp.1 cause hk
      refine ⟨hfits, fun hopen => ?_⟩
      obtain ⟨rfl, hleft⟩ := hlast hopen
      exact hend hleft

theorem faultsShown_cons {p : Piece} (hp : ∀ cause, p.kind ≠ some (.fault cause)) (h : FaultsShown left ps) :
    FaultsShown left (p :: ps) :=
  ⟨fun cause hk => absurd hk (hp cause), h⟩

theorem faultsShown_string (cs : Text) : FaultsShown (string cs).2 [(string cs).1] := by
  rw [string]
  split
  · refine ⟨?_, trivial⟩
    rintro cause ⟨⟩
    exact ⟨⟨_, rfl, quote_not_mem_takeWhile cs⟩, fun _ => ⟨rfl, rfl⟩⟩
  · exact faultsShown_cons (by simp [token]) trivial

theorem faultsShown_content (cs : Text) : FaultsShown (content cs).2 (content cs).1 := by
  unfold content
  split
  · next rest => exact faultsShown_string rest
  · split
    · trivial
    · exact faultsShown_cons (by simp [token]) trivial

theorem faultsShown_sign {k : Token.Kind} {t : Text} (hk : k.IsSign)
    (ht : k = .fault .controlCharacter → LexicalFault.controlCharacter.Fits t) : FaultsShown left [token k t] := by
  refine ⟨?_, trivial⟩
  rintro cause ⟨⟩
  cases cause with
  | controlCharacter => exact ⟨ht rfl, nofun⟩
  | unterminatedString => exact hk.elim

theorem faultsShown_word (c : Char) (cs : Text) : FaultsShown (word c cs).2 (word c cs).1 := by
  rw [word]
  split
  · next rest _ =>
      exact faultsShown_cons (by simp [token]) (faultsShown_cons (by simp [token]) (faultsShown_content rest))
  · have hkind := wordKind_ne_fault (c :: cs.takeWhile isWordChar)
    exact faultsShown_cons (by simpa [token] using hkind) trivial

theorem faultsShown_step (c : Char) (cs : Text) : FaultsShown (step c cs).2 (step c cs).1 := by
  apply step_elim (P := fun cut => FaultsShown cut.2 cut.1)
  case hsign =>
    intro k t rest hk _ hcontrol
    exact faultsShown_sign hk fun h => ⟨c, hcontrol h⟩
  case hblank =>
    intro _
    exact faultsShown_cons (by simp) trivial
  case hstring => exact faultsShown_string cs
  case hword =>
    intro _ _
    exact faultsShown_word c cs

theorem faultsShown_pieces (t : Text) : FaultsShown [] (pieces t) := by
  fun_induction pieces t with
  | case1 => trivial
  | case2 c cs ih =>
      refine (faultsShown_step c cs).append ih fun hnil => ⟨?_, rfl⟩
      rw [hnil, pieces]

end Lexer

namespace Token

open Lexer

theorem eq_concat_of_all {source : Text} {before after : List Token} {t : Token}
    (h : all source = before ++ t :: after) (ht : t.kind ≠ .finish) :
    ∃ rest, after = rest ++ [finish source] ∧ scan source = before ++ t :: rest := by
  rcases List.eq_nil_or_concat after with rfl | ⟨rest, last, rfl⟩
  · obtain ⟨-, hlast⟩ := List.append_inj' h rfl
    obtain rfl := List.singleton_inj.1 hlast
    exact absurd rfl ht
  · have hsplit : scan source ++ [finish source] = (before ++ t :: rest) ++ [last] := by
      rw [← all, h]
      simp
    obtain ⟨hscan, hlast⟩ := List.append_inj' hsplit rfl
    rw [List.concat_eq_append, List.singleton_inj.1 hlast]
    exact ⟨rest, rfl, hscan⟩

theorem fault_shown {source : Text} {before after : List Token} {t : Token} {cause : LexicalFault}
    (h : all source = before ++ t :: after) (ht : t.kind = .fault cause) :
    cause.Fits t.lexeme ∧
      (cause = .unterminatedString → t.span.stop = source.byteSize ∧ after = [finish source]) := by
  obtain ⟨rest, rfl, hscan⟩ := eq_concat_of_all h (by simp [ht])
  obtain ⟨ps, qs, hpieces, hp, hrest⟩ := exists_of_locate_eq_append hscan
  have hshown := faultsShown_pieces source
  rw [hpieces] at hshown
  obtain ⟨hfits, hlast⟩ := hshown.of_append.1 cause (congrArg some ht)
  refine ⟨hfits, fun hopen => ?_⟩
  obtain ⟨rfl, -⟩ := hlast hopen
  have hsource : source = join ps ++ t.lexeme := by
    rw [← join_pieces source, hpieces, join_append, join_cons, join_nil, List.append_nil]
    rfl
  constructor
  · rw [span, hp, Position.offset_advanceOver, hsource, byteSize_append]
    exact congrArg (· + _) (Nat.zero_add _)
  · rw [hrest]
    rfl

end Token

end Triage
