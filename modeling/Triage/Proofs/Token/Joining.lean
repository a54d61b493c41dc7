import Triage.Proofs.Token.Coverage
import Triage.Proofs.Token.Folding

/-!
Cutting two texts that are joined. If no string is left open at the joint, and nothing before the joint can go on into the
text after it, the pieces of the whole are those of the one text and then those of the other. So a space between two
texts keeps the tokens of each as they are, those of the second one counted on from the space.
-/

namespace Triage

namespace Text

def StandsApart (t : Text) : Prop := ∀ c ∈ t.head?, isContentChar c = false ∧ c ≠ '"' ∧ c ≠ '&' ∧ c ≠ '|'

theorem StandsApart.stops {t : Text} (h : t.StandsApart) : t.Stops := fun c hc => (h c hc).1

theorem head_dropWhile_append {p : Char → Bool} {cs rest : Text}
    (h : cs.dropWhile p = [] → ∀ c ∈ rest.head?, p c = false) :
    ∀ c ∈ (cs.dropWhile p ++ rest).head?, p c = false := by
  have hhead := List.head?_dropWhile_not p cs
  cases hd : cs.dropWhile p with
  | nil => exact h hd
  | cons d ds =>
      rw [hd] at hhead
      rintro c ⟨⟩
      simpa using hhead

theorem run_append {p : Char → Bool} (cs rest : Text) (h : cs.dropWhile p = [] → ∀ c ∈ rest.head?, p c = false) :
    (cs ++ rest).takeWhile p = cs.takeWhile p ∧ (cs ++ rest).dropWhile p = cs.dropWhile p ++ rest := by
  have hrun : ∀ c ∈ cs.takeWhile p, p c := fun c hc => List.mem_takeWhile_imp hc
  have hstop := head_dropWhile_append h
  have hwhole : cs ++ rest = cs.takeWhile p ++ (cs.dropWhile p ++ rest) := by
    rw [← List.append_assoc, List.takeWhile_append_dropWhile]
  rw [hwhole]
  exact ⟨takeWhile_run hrun hstop, dropWhile_run hrun hstop⟩

theorem dropPrefix?_singleton_append {d : Char} {rest : Text} (h : ∀ c ∈ rest.head?, c ≠ d) (cs : Text) :
    dropPrefix? [d] (cs ++ rest) = (dropPrefix? [d] cs).map (· ++ rest) := by
  cases cs with
  | nil =>
      cases rest with
      | nil => rfl
      | cons c cs => simp [dropPrefix?, Ne.symm (h c rfl)]
  | cons c cs => by_cases hc : d = c <;> simp [dropPrefix?, hc]

end Text

namespace Lexer

open Text

def Terminated (ps : List Piece) : Prop := ∀ p ∈ ps, p.kind ≠ some (.fault .unterminatedString)

def CutsBefore (rest : Text) (alone joined : List Piece × Text) : Prop :=
  Terminated alone.1 → joined = (alone.1, alone.2 ++ rest)

theorem cutsBefore_rfl (rest : Text) (ps : List Piece) (t : Text) : CutsBefore rest (ps, t) (ps, t ++ rest) :=
  fun _ => rfl

theorem cutsBefore_ite {rest : Text} {p : Prop} [Decidable p] {a b a' b' : List Piece × Text}
    (ha : p → CutsBefore rest a a') (hb : ¬ p → CutsBefore rest b b') :
    CutsBefore rest (if p then a else b) (if p then a' else b') := by
  by_cases h : p
  · rw [if_pos h, if_pos h]
    exact ha h
  · rw [if_neg h, if_neg h]
    exact hb h

theorem string_append {cs : Text} (h : (string cs).1.kind ≠ some (.fault .unterminatedString)) (rest : Text) :
    string (cs ++ rest) = ((string cs).1, (string cs).2 ++ rest) := by
  cases hd : cs.dropWhile (· != '"') with
  | nil => simp [string, hd, token] at h
  | cons quote after =>
      have hclosed : cs.dropWhile (· != '"') ≠ [] := by simp [hd]
      obtain ⟨htake, hdrop⟩ := run_append cs rest fun hnil => absurd hnil hclosed
      simp [string, htake, hdrop, hd]

variable {rest : Text} (hrest : rest.StandsApart)

include hrest

theorem bareContent_append (cs : Text) : CutsBefore rest (bareContent cs) (bareContent (cs ++ rest)) := by
  obtain ⟨htake, hdrop⟩ := run_append cs rest fun _ => hrest.stops
  rw [bareContent, bareContent, htake, hdrop]
  cases cs.takeWhile isContentChar with
  | nil => exact cutsBefore_rfl rest _ _
  | cons c run => exact cutsBefore_rfl rest _ _

theorem content_append (cs : Text) : CutsBefore rest (content cs) (content (cs ++ rest)) := by
  have hquote := dropPrefix?_singleton_append (fun c hc => (hrest c hc).2.1) cs
  rw [content_eq, content_eq, hquote]
  cases dropPrefix? ['"'] cs with
  | none => exact bareContent_append hrest cs
  | some inner =>
      intro h
      simp only [Option.map_some, string_append (h _ (List.mem_singleton_self _))]

theorem word_append (c : Char) (cs : Text) : CutsBefore rest (word c cs) (word c (cs ++ rest)) := by
  obtain ⟨htake, hdrop⟩ := run_append cs rest fun _ => hrest.stops.not_word
  have hne : ∀ d ∈ rest.head?, d ≠ ':' := by
    rintro d hd rfl
    exact absurd (hrest ':' hd).1 (by decide)
  have hcolon := dropPrefix?_singleton_append hne (cs.dropWhile isWordChar)
  rw [word_eq, word_eq]
  simp only [htake, hdrop, hcolon]
  cases dropPrefix? [':'] (cs.dropWhile isWordChar) with
  | none => exact cutsBefore_rfl rest _ _
  | some after =>
      intro h
      have hcontent := content_append hrest after fun p hp => h p (List.mem_cons_of_mem _ (List.mem_cons_of_mem _ hp))
      simp only [Option.map_some, hcontent]

theorem operator_append (kind : Token.Kind) {sign : Char} (hsign : sign = '&' ∨ sign = '|') (cs : Text) :
    CutsBefore rest (operator kind sign cs) (operator kind sign (cs ++ rest)) := by
  cases cs with
  | nil =>
      cases rest with
      | nil => exact cutsBefore_rfl [] _ _
      | cons c cs =>
          have hc : c ≠ sign := by
            rcases hsign with rfl | rfl
            · exact (hrest c rfl).2.2.1
            · exact (hrest c rfl).2.2.2
          intro _
          simp [operator, hc]
  | cons c cs =>
      exact cutsBefore_ite (fun _ => cutsBefore_rfl rest _ _) fun _ => cutsBefore_rfl rest _ _

theorem step_append (c : Char) (cs : Text) : CutsBefore rest (step c cs) (step c (cs ++ rest)) := by
  have hstring : CutsBefore rest ([(string cs).1], (string cs).2)
      ([(string (cs ++ rest)).1], (string (cs ++ rest)).2) := by
    intro h
    simp only [string_append (h _ (List.mem_singleton_self _))]
  rw [step, step]
  refine cutsBefore_ite (fun _ => cutsBefore_rfl rest _ _) fun _ => ?_
  refine cutsBefore_ite (fun _ => cutsBefore_rfl rest _ _) fun _ => ?_
  refine cutsBefore_ite (fun h => operator_append hrest _ (.inl h) cs) fun _ => ?_
  refine cutsBefore_ite (fun h => operator_append hrest _ (.inr h) cs) fun _ => ?_
  refine cutsBefore_ite (fun _ => cutsBefore_rfl rest _ _) fun _ => ?_
  refine cutsBefore_ite (fun _ => cutsBefore_rfl rest _ _) fun _ => ?_
  refine cutsBefore_ite (fun _ => hstring) fun _ => ?_
  refine cutsBefore_ite (fun _ => cutsBefore_rfl rest _ _) fun _ => ?_
  refine cutsBefore_ite (fun _ => cutsBefore_rfl rest _ _) fun _ => ?_
  exact word_append hrest c cs

theorem pieces_append {t : Text} (h : Terminated (pieces t)) : pieces (t ++ rest) = pieces t ++ pieces rest := by
  fun_induction pieces t with
  | case1 => rfl
  | case2 c cs ih =>
      have hstep := step_append hrest c cs fun p hp => h p (List.mem_append_left _ hp)
      rw [List.cons_append, pieces_cons, hstep, ih fun p hp => h p (List.mem_append_right _ hp), List.append_assoc]

end Lexer

namespace Position

def Counted (p : Position) : Prop := 0 < p.line ∧ 0 < p.column

theorem Counted.advance {p : Position} (h : p.Counted) (c : Char) : (p.advance c).Counted := by
  unfold Position.advance
  split
  · exact ⟨Nat.succ_pos _, Nat.one_pos⟩
  · exact ⟨h.1, Nat.succ_pos _⟩

theorem Counted.advanceOver {p : Position} (h : p.Counted) (t : Text) : (p.advanceOver t).Counted := by
  induction t generalizing p with
  | nil => exact h
  | cons c t ih => exact ih (h.advance c)

/-- A place of a text, in a longer text whose last part it is and in which it begins at the given place. -/
def movedTo (p start : Position) : Position :=
  ⟨start.offset + p.offset, start.line + (p.line - 1), if p.line = 1 then start.column + (p.column - 1) else p.column⟩

theorem Counted.movedTo_advance {p : Position} (h : p.Counted) (start : Position) (c : Char) :
    (p.advance c).movedTo start = (p.movedTo start).advance c := by
  obtain ⟨hline, hcolumn⟩ := h
  by_cases hc : c = '\n'
  · have hnext : start.line + (p.line + 1 - 1) = start.line + (p.line - 1) + 1 := by omega
    have hlater : p.line + 1 ≠ 1 := by omega
    simp only [Position.advance, movedTo, if_pos hc, if_neg hlater, hnext, Nat.add_assoc]
  · have hnext : start.column + (p.column + 1 - 1) = start.column + (p.column - 1) + 1 := by omega
    simp only [Position.advance, movedTo, if_neg hc, hnext, Nat.add_assoc]
    split <;> rfl

theorem Counted.movedTo_advanceOver {p : Position} (h : p.Counted) (start : Position) (t : Text) :
    (p.advanceOver t).movedTo start = (p.movedTo start).advanceOver t := by
  induction t generalizing p with
  | nil => rfl
  | cons c t ih => rw [advanceOver_cons, advanceOver_cons, ih (h.advance c), h.movedTo_advance]

end Position

def Token.movedTo (t : Token) (start : Position) : Token := { t with position := t.position.movedTo start }

namespace Lexer

theorem exists_mem_locate {ps : List Piece} {q : Piece} (hq : q ∈ ps) {k : Token.Kind} (hk : q.kind = some k)
    (p : Position) : ∃ t ∈ locate p ps, t.kind = k := by
  induction ps generalizing p with
  | nil => cases hq
  | cons r ps ih =>
      obtain ⟨kind, text⟩ := r
      rcases List.mem_cons.1 hq with rfl | hq
      · obtain rfl : kind = some k := hk
        exact ⟨_, List.mem_cons_self, rfl⟩
      · obtain ⟨t, ht, htk⟩ := ih hq (p.advanceOver text)
        cases kind with
        | none => exact ⟨t, ht, htk⟩
        | some _ => exact ⟨t, List.mem_cons_of_mem _ ht, htk⟩

theorem locate_movedTo {p : Position} (h : p.Counted) (start : Position) (ps : List Piece) :
    locate (p.movedTo start) ps = (locate p ps).map fun t => t.movedTo start := by
  induction ps generalizing p with
  | nil => rfl
  | cons q ps ih =>
      obtain ⟨kind, text⟩ := q
      have hrest := ih (h.advanceOver text)
      rw [h.movedTo_advanceOver] at hrest
      cases kind with
      | none => exact hrest
      | some k => simp only [locate, hrest, List.map_cons, Token.movedTo]

theorem locate_eq_map (start : Position) (ps : List Piece) :
    locate start ps = (locate .origin ps).map fun t => t.movedTo start :=
  locate_movedTo (p := .origin) ⟨Nat.one_pos, Nat.one_pos⟩ start ps

end Lexer

namespace Token

open Lexer Text

theorem terminated_pieces {s : Text} (h : ∀ u ∈ all s, u.kind ≠ .fault .unterminatedString) :
    Terminated (pieces s) := by
  intro q hq hk
  obtain ⟨u, hu, huk⟩ := exists_mem_locate hq hk .origin
  exact h u (List.mem_append_left _ hu) huk

theorem span_movedTo (u : Token) (start : Position) :
    (u.movedTo start).span = ⟨start.offset + u.span.start, start.offset + u.span.stop⟩ := by
  simp only [span, movedTo, Position.movedTo, Nat.add_assoc]

theorem all_joined_by_space {s : Text} (h : ∀ u ∈ all s, u.kind ≠ .fault .unterminatedString) (t : Text) :
    let start := Position.origin.advanceOver (s ++ [' '])
    all (s ++ ' ' :: t) = (all s).dropLast ++ (all t).map (fun u => u.movedTo start) ∧
    ∀ u ∈ all t, (u.movedTo start).kind = u.kind ∧ (u.movedTo start).lexeme = u.lexeme ∧
      (u.movedTo start).literal? = u.literal? ∧
      (u.movedTo start).span = ⟨s.byteSize + 1 + u.span.start, s.byteSize + 1 + u.span.stop⟩ := by
  have hspace : StandsApart (' ' :: t) := by
    rintro c ⟨⟩
    decide
  have hpieces : pieces (s ++ ' ' :: t) = pieces s ++ ⟨none, [' ']⟩ :: pieces t := by
    rw [pieces_append hspace (terminated_pieces h), pieces_blank]
  have hstart : (Position.origin.advanceOver (s ++ [' '])).offset = s.byteSize + 1 := by
    rw [Position.offset_advanceOver, byteSize_append]
    exact Nat.zero_add _
  refine ⟨?_, fun u _ => ⟨rfl, rfl, rfl, by rw [span_movedTo, hstart]⟩⟩
  calc all (s ++ ' ' :: t)
    _ = locate .origin (pieces s ++ ⟨none, [' ']⟩ :: (pieces t ++ [token .finish []])) := by
        rw [all_eq_locate, hpieces, List.append_assoc, List.cons_append]
    _ = scan s ++ locate (Position.origin.advanceOver (s ++ [' '])) (pieces t ++ [token .finish []]) := by
        rw [locate_append, join_pieces, Position.advanceOver_append]
        rfl
    _ = (all s).dropLast ++ (all t).map (fun u => u.movedTo (Position.origin.advanceOver (s ++ [' ']))) := by
        rw [locate_eq_map, ← all_eq_locate, all, all, List.dropLast_concat]

def detachedName : Text := "über\n(milestone:".toList

theorem all_joined_by_space_detached :
    (∀ u ∈ all detachedName, u.kind ≠ .fault .unterminatedString) ∧
    all (detachedName ++ ' ' :: "\"v1\" \"open".toList) =
      (all detachedName).dropLast ++
        [⟨.content (some "v1".toList), "\"v1\"".toList, ⟨18, 2, 13⟩⟩,
          ⟨.fault .unterminatedString, "\"open".toList, ⟨23, 2, 18⟩⟩, ⟨.finish, [], ⟨28, 2, 23⟩⟩] := by
  have hclosed : ∀ u ∈ all detachedName, u.kind ≠ .fault .unterminatedString := by decide +kernel
  have hmoved : (all "\"v1\" \"open".toList).map
      (fun u => u.movedTo (Position.origin.advanceOver (detachedName ++ [' ']))) =
        [⟨.content (some "v1".toList), "\"v1\"".toList, ⟨18, 2, 13⟩⟩,
          ⟨.fault .unterminatedString, "\"open".toList, ⟨23, 2, 18⟩⟩, ⟨.finish, [], ⟨28, 2, 23⟩⟩] := by
    decide +kernel
  exact ⟨hclosed, (all_joined_by_space hclosed _).1.trans (by rw [hmoved])⟩

end Token

end Triage
