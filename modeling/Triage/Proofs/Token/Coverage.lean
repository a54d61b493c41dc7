import Triage.Proofs.Text.Slice
import Triage.Proofs.Token.Shape

namespace Triage

open Text

namespace Lexer

def Piece.Solid (p : Piece) : Prop :=
  match p.kind with
  | none => ∀ c ∈ p.text, isBlank c
  | some k => k ≠ .finish ∧ p.text ≠ []

theorem solid_sign {k : Token.Kind} {t : Text} (hk : k.IsSign) (ht : t ≠ []) : (token k t).Solid := by
  refine ⟨?_, ht⟩
  rintro rfl
  exact hk

theorem solid_string (cs : Text) : (string cs).1.Solid := by
  rw [string]
  split
  · exact ⟨by simp, List.cons_ne_nil _ _⟩
  · exact ⟨by simp, List.cons_ne_nil _ _⟩

theorem solid_content (cs : Text) : ∀ p ∈ (content cs).1, p.Solid := by
  unfold content
  split
  · next rest =>
      intro p hp
      rw [List.mem_singleton.1 hp]
      exact solid_string rest
  · split
    · simp
    · next hrun =>
        intro p hp
        rw [List.mem_singleton.1 hp]
        exact ⟨by simp, hrun⟩

theorem solid_word (c : Char) (cs : Text) : ∀ p ∈ (word c cs).1, p.Solid := by
  rw [word]
  split
  · next rest _ =>
      intro p hp
      rcases List.mem_cons.1 hp with rfl | hp
      · exact ⟨by simp, List.cons_ne_nil _ _⟩
      · rcases List.mem_cons.1 hp with rfl | hp
        · exact ⟨by simp, List.cons_ne_nil _ _⟩
        · exact solid_content rest p hp
  · intro p hp
    rw [List.mem_singleton.1 hp]
    rcases wordKind_cases (c :: cs.takeWhile isWordChar) with hsign | hcontent
    · exact solid_sign hsign (List.cons_ne_nil _ _)
    · rw [hcontent]
      exact ⟨by simp, List.cons_ne_nil _ _⟩

theorem solid_step (c : Char) (cs : Text) : ∀ p ∈ (step c cs).1, p.Solid := by
  apply step_elim (P := fun cut => ∀ p ∈ cut.1, p.Solid)
  case hsign =>
    intro k t _ hk ht _ p hp
    rw [List.mem_singleton.1 hp]
    exact solid_sign hk ht
  case hblank =>
    intro hb p hp
    rw [List.mem_singleton.1 hp]
    intro d hd
    rwa [List.mem_singleton.1 hd]
  case hstring =>
    intro p hp
    rw [List.mem_singleton.1 hp]
    exact solid_string cs
  case hword =>
    intro _ _
    exact solid_word c cs

theorem solid_pieces (t : Text) : ∀ p ∈ pieces t, p.Solid := by
  fun_induction pieces t with
  | case1 => simp
  | case2 c cs ih =>
      intro p hp
      rcases List.mem_append.1 hp with hp | hp
      · exact solid_step c cs p hp
      · exact ih p hp

theorem slice?_of_mem_locate {ps : List Piece} {t : Token} (h : t ∈ locate .origin ps) :
    slice? (join ps) t.span = some t.lexeme := by
  obtain ⟨before, after, rfl, hp⟩ := exists_append_of_mem_locate h
  have hstart : t.position.offset = byteSize (join before) := by
    rw [hp, Position.offset_advanceOver]
    exact Nat.zero_add _
  refine slice?_eq_some_iff.2 ⟨join before, join after, ?_, ?_⟩
  · rw [join_append, join_cons, List.append_assoc]
    rfl
  · rw [Token.span, hstart]

theorem offset_le_of_mem_locate {ps : List Piece} {p : Position} {t : Token} (h : t ∈ locate p ps) :
    p.offset ≤ t.span.start := by
  obtain ⟨before, after, rfl, hp⟩ := exists_append_of_mem_locate h
  rw [Token.span, hp, Position.offset_advanceOver]
  exact Nat.le_add_right _ _

theorem pairwise_locate (p : Position) (ps : List Piece) :
    (locate p ps).Pairwise fun a b => a.span.stop ≤ b.span.start := by
  induction ps generalizing p with
  | nil => exact .nil
  | cons q ps ih =>
      obtain ⟨kind, text⟩ := q
      cases kind with
      | none => exact ih _
      | some k =>
          refine .cons (fun t ht => ?_) (ih _)
          have hnext := offset_le_of_mem_locate ht
          rwa [Position.offset_advanceOver] at hnext

theorem eq_append_of_append_eq {s t before after : Text} {c : Char} (h : s ++ t = before ++ c :: after) :
    (∃ inside, s = before ++ c :: inside) ∨ ∃ before', before = s ++ before' ∧ t = before' ++ c :: after := by
  rcases List.append_eq_append_iff.1 h with ⟨before', hbefore, ht⟩ | ⟨inside, hs, hrest⟩
  · exact .inr ⟨before', hbefore, ht⟩
  · cases inside with
    | nil => exact .inr ⟨[], by simpa using hs.symm, hrest.symm⟩
    | cons d inside =>
        obtain ⟨rfl, -⟩ := List.cons.inj hrest
        exact .inl ⟨inside, hs⟩

theorem isBlank_of_outside {ps : List Piece} {p : Position} {before after : Text} {c : Char}
    (hs : ∀ q ∈ ps, q.Solid) (hjoin : join ps = before ++ c :: after)
    (hout : ∀ t ∈ locate p ps,
      p.offset + before.byteSize < t.span.start ∨ t.span.stop ≤ p.offset + before.byteSize) : isBlank c := by
  induction ps generalizing p before with
  | nil => simp at hjoin
  | cons q ps ih =>
      obtain ⟨kind, text⟩ := q
      obtain ⟨hq, hps⟩ := List.forall_mem_cons.1 hs
      have hjoin : text ++ join ps = before ++ c :: after := by rw [← hjoin, join_cons]
      rcases eq_append_of_append_eq hjoin with ⟨inside, rfl⟩ | ⟨before', rfl, hrest⟩
      · cases kind with
        | none => exact hq c (by simp)
        | some k =>
            have hfirst := hout ⟨k, before ++ c :: inside, p⟩ List.mem_cons_self
            have hsize := c.utf8Size_pos
            simp only [Token.span, byteSize_append, byteSize_cons] at hfirst
            omega
      · have hoffset : (p.advanceOver text).offset + byteSize before' = p.offset + byteSize (text ++ before') := by
          rw [Position.offset_advanceOver, byteSize_append, Nat.add_assoc]
        refine ih (p := p.advanceOver text) hps hrest fun t ht => ?_
        rw [hoffset]
        cases kind with
        | none => exact hout t ht
        | some k => exact hout t (List.mem_cons_of_mem _ ht)

end Lexer

namespace Token

open Lexer

theorem all_eq_locate (source : Text) : all source = locate .origin (pieces source ++ [token .finish []]) := by
  rw [locate_append, join_pieces]
  rfl

theorem join_pieces_finish (source : Text) : join (pieces source ++ [token .finish []]) = source := by
  rw [join_append, join_pieces]
  exact List.append_nil source

theorem slice?_of_mem_all {source : Text} {t : Token} (h : t ∈ all source) : source.slice? t.span = some t.lexeme := by
  rw [all_eq_locate] at h
  have hslice := slice?_of_mem_locate h
  rwa [join_pieces_finish] at hslice

theorem pairwise_all (source : Text) : (all source).Pairwise fun a b => a.span.stop ≤ b.span.start := by
  rw [all_eq_locate]
  exact pairwise_locate _ _

theorem colon_of_name {source : Text} {before after : List Token} {name : Token}
    (h : all source = before ++ name :: after) (hk : name.kind = .name) :
    ∃ colon rest, after = colon :: rest ∧ colon.kind = .colon ∧ colon.lexeme = [':'] ∧
      colon.span.start = name.span.stop := by
  have hlead := (namesLead_pieces source).append (namesLead_singleton (p := token .finish []) (by simp [token]))
  rw [all_eq_locate] at h
  exact colon_of_locate hlead h hk

theorem solid_of_mem_scan {source : Text} {t : Token} (h : t ∈ scan source) : t.kind ≠ .finish ∧ t.lexeme ≠ [] := by
  obtain ⟨before, after, hpieces, -⟩ := exists_append_of_mem_locate h
  have hmem : token t.kind t.lexeme ∈ pieces source := by
    rw [hpieces]
    exact List.mem_append_right before List.mem_cons_self
  exact solid_pieces source _ hmem

theorem mem_scan_of_mem_all {source : Text} {t : Token} (h : t ∈ all source) (hk : t.kind ≠ .finish) :
    t ∈ scan source := by
  rcases List.mem_append.1 h with h | h
  · exact h
  · rw [List.mem_singleton.1 h] at hk
    exact absurd rfl hk

theorem span_finish (source : Text) : (finish source).span = ⟨source.byteSize, source.byteSize⟩ := by
  simp [span, finish, Position.offset_advanceOver, Position.origin]

/-- The spans before each of some tokens, the first of which begins at the given offset. -/
def gaps : Nat → List Token → List Span
  | _, [] => []
  | start, t :: ts => ⟨start, t.span.start⟩ :: gaps t.span.stop ts

def interleave (between : List Text) (ts : List Token) : Text :=
  (List.zipWith (fun gap t => gap ++ t.lexeme) between ts).flatten

theorem exists_gaps {source : Text} {ps : List Piece} (before gap : Text) (p : Position) (hs : ∀ q ∈ ps, q.Solid)
    (hgap : ∀ c ∈ gap, isBlank c) (hsource : source = before ++ gap ++ join ps)
    (hp : p.offset = byteSize (before ++ gap)) :
    let ts := locate p (ps ++ [token .finish []])
    ∃ between : List Text, (gaps before.byteSize ts).map source.slice? = between.map some ∧
      (∀ g ∈ between, ∀ c ∈ g, isBlank c) ∧ interleave between ts = gap ++ join ps := by
  -- Blank pieces make the gap longer, and a token closes it.
  induction ps generalizing before gap p with
  | nil =>
      have hslice : source.slice? ⟨before.byteSize, p.offset⟩ = some gap :=
        slice?_eq_some_iff.2 ⟨before, [], hsource, by rw [hp, byteSize_append]⟩
      refine ⟨[gap], ?_, by simpa using hgap, by simp [locate, token, interleave]⟩
      simpa [locate, token, gaps, span] using hslice
  | cons q ps ih =>
      obtain ⟨kind, text⟩ := q
      obtain ⟨hq, hps⟩ := List.forall_mem_cons.1 hs
      have hnext : (p.advanceOver text).offset = byteSize (before ++ gap ++ text) := by
        rw [Position.offset_advanceOver, hp, ← byteSize_append]
      rw [join_cons] at hsource
      cases kind with
      | none =>
          have hblank : ∀ c ∈ gap ++ text, isBlank c := by
            intro c hc
            rcases List.mem_append.1 hc with hc | hc
            · exact hgap c hc
            · exact hq c hc
          obtain ⟨between, hslices, hall, hjoin⟩ := ih before (gap ++ text) (p.advanceOver text) hps hblank
            (by simpa using hsource) (by simpa using hnext)
          exact ⟨between, hslices, hall, by simpa [locate] using hjoin⟩
      | some k =>
          have hslice : source.slice? ⟨before.byteSize, p.offset⟩ = some gap :=
            slice?_eq_some_iff.2 ⟨before, text ++ join ps, hsource, by rw [hp, byteSize_append]⟩
          obtain ⟨between, hslices, hall, hjoin⟩ := ih (before ++ gap ++ text) [] (p.advanceOver text) hps
            (by simp) (by simpa using hsource) (by simpa using hnext)
          have hstop : p.offset + byteSize text = byteSize (before ++ gap ++ text) := by
            rw [hp, ← byteSize_append]
          refine ⟨gap :: between, ?_, by simpa using ⟨hgap, hall⟩, ?_⟩
          · simpa [locate, gaps, span, hslice, hstop] using hslices
          · simpa [locate, interleave] using hjoin

structure Lossless (source : Text) (ts : List Token) (last : Token) : Prop where
  finish : last.kind = .finish ∧ last.span = ⟨source.byteSize, source.byteSize⟩
  only : ∀ t ∈ ts, t.kind ≠ .finish
  sliced : ∀ t ∈ ts ++ [last], source.slice? t.span = some t.lexeme
  bytes : ∀ t ∈ ts ++ [last], t.lexeme.bytes = (source.bytes.drop t.span.start).take (t.span.stop - t.span.start)
  quoted : ∀ t ∈ ts, ∀ inner, t.kind = .content (some inner) →
    t.lexeme.slice? ⟨1, t.lexeme.byteSize - 1⟩ = some inner
  nonempty : ∀ t ∈ ts, t.span.start < t.span.stop
  ordered : ts.Pairwise fun a b => a.span.stop ≤ b.span.start
  blank : ∀ (before : Text) (c : Char) (after : Text), source = before ++ c :: after →
    (∀ t ∈ ts, before.byteSize < t.span.start ∨ t.span.stop ≤ before.byteSize) → isBlank c
  interleaved : ∃ between : List Text, (gaps 0 (ts ++ [last])).map source.slice? = between.map some ∧
    (∀ g ∈ between, ∀ c ∈ g, isBlank c) ∧ interleave between (ts ++ [last]) = source

theorem slice?_quoted {t : Token} {inner : Text} (hf : t.kind.Fits t.lexeme) (hk : t.kind = .content (some inner)) :
    t.lexeme.slice? ⟨1, t.lexeme.byteSize - 1⟩ = some inner := by
  rw [hk] at hf
  have hlexeme : t.lexeme = ['"'] ++ inner ++ ['"'] := hf.2
  have hquote : byteSize ['"'] = 1 := rfl
  refine slice?_eq_some_iff.2 ⟨['"'], ['"'], hlexeme, ?_⟩
  rw [hlexeme, byteSize_append, byteSize_append, hquote, Nat.add_sub_cancel]

theorem all_lossless (source : Text) : ∃ ts last, all source = ts ++ [last] ∧ Lossless source ts last := by
  refine ⟨scan source, finish source, rfl, ?_⟩
  constructor
  case finish => exact ⟨rfl, span_finish source⟩
  case only =>
    intro t ht
    exact (solid_of_mem_scan ht).1
  case sliced =>
    intro t ht
    exact slice?_of_mem_all ht
  case bytes =>
    intro t ht
    exact bytes_of_slice? (slice?_of_mem_all ht)
  case quoted =>
    intro t ht inner hk
    exact slice?_quoted (fits_of_mem_scan ht) hk
  case nonempty =>
    intro t ht
    exact Nat.lt_add_of_pos_right (byteSize_pos (solid_of_mem_scan ht).2)
  case ordered => exact pairwise_locate _ _
  case blank =>
    intro before c after hsource hout
    have hjoin : join (pieces source) = before ++ c :: after := by rw [join_pieces, hsource]
    have horigin : Position.origin.offset + before.byteSize = before.byteSize := Nat.zero_add _
    exact isBlank_of_outside (p := .origin) (solid_pieces source) hjoin (by rwa [horigin])
  case interleaved =>
    have hgaps := exists_gaps [] [] .origin (solid_pieces source) (by simp) (join_pieces source).symm rfl
    rw [← all_eq_locate, join_pieces] at hgaps
    exact hgaps

end Token

end Triage
