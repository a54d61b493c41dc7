import Triage.Proofs.Filter.CanonicalText
import Triage.Proofs.Filter.Grammar
import Triage.Proofs.Token.Shape

namespace Triage.Filter

open Text Lexer Grammar

/-- The pairs of parentheses around a filter that stands where operators of a lower rank would not be read. -/
def parens (f : Filter) (least : Nat) : Nat := if f.rank < least then 1 else 0

def nesting : Filter → Nat
  | .everything | .term _ _ => 0
  | .conj l r => max (l.nesting + l.parens 1) (r.nesting + r.parens 2)
  | .disj l r => max l.nesting (r.nesting + r.parens 1)
  | .neg f => f.nesting + f.parens 2 + 1

def category : Filter → Category
  | .disj _ _ => .disjunction
  | .conj _ _ => .conjunction
  | _ => .unary

theorem kind_contentPiece (bare : Bool) (content : Text) (p : Position) :
    ∃ t, locate p [contentPiece bare content] = [t] ∧ t.kind.isContent ∧ t.text = content ∧ t.position = p := by
  cases bare <;> exact ⟨_, rfl, rfl, rfl, rfl⟩

theorem derives_term (name content : Text) (p : Position) :
    Derives .primary (locate p (termPieces name content)) (.term name content) 0 := by
  rw [termPieces]
  split
  · next hk =>
      obtain ⟨t, ht, hc, rfl, -⟩ := kind_contentPiece content.isBareWord content p
      rw [ht, hk]
      exact .keyword hc
  · let p' := p.advanceOver name
    obtain ⟨t, ht, hc, hcontent, hp⟩ :=
      kind_contentPiece (content ≠ [] ∧ content.all isContentChar) content (p'.advanceOver [':'])
    have hspan : t.span.start = (⟨.colon, [':'], p'⟩ : Token).span.stop := by
      simp only [Token.span, hp, Position.offset_advanceOver]
    have hd : Derives .primary [⟨.name, name, p⟩, ⟨.colon, [':'], p'⟩, t] (.term name t.text) 0 :=
      .qualifier rfl rfl hc hspan
    rw [hcontent] at hd
    show Derives .primary (_ :: _ :: locate _ [contentPiece _ content]) _ 0
    rwa [ht]

theorem derives_group {ps : List Piece} {f : Filter} {n : Nat} (h : ∀ p, Derives .disjunction (locate p ps) f n)
    (p : Position) : Derives .unary (locate p (enclose true ps)) f (n + 1) := by
  simp only [enclose, if_true, locate, token, locate_append]
  exact .primary (.group rfl (h _) rfl)

theorem derives_conjunct {ps : List Piece} {f : Filter} {n : Nat} (h : ∀ p, Derives f.category (locate p ps) f n)
    (p : Position) :
    Derives .unary (locate p (enclose (f.rank < 2) ps)) f (n + f.parens 2) := by
  cases f with
  | conj l r => exact derives_group (fun p => .conjunction (h p)) p
  | disj l r => exact derives_group h p
  | _ => exact h p

theorem derives_alternative {ps : List Piece} {f : Filter} {n : Nat} (h : ∀ p, Derives f.category (locate p ps) f n)
    (p : Position) :
    Derives .conjunction (locate p (enclose (f.rank < 1) ps)) f (n + f.parens 1) := by
  cases f with
  | conj l r => exact h p
  | disj l r => exact .unary (derives_group h p)
  | _ => exact .unary (h p)

theorem derives_disjunction {ts : List Token} {f : Filter} {n : Nat} (h : Derives f.category ts f n) :
    Derives .disjunction ts f n := by
  cases f with
  | conj l r => exact .conjunction h
  | disj l r => exact h
  | _ => exact .conjunction (.unary h)

theorem derives_pieces {f : Filter} (h : f.Printable) (p : Position) :
    Derives f.category (locate p f.pieces) f f.nesting := by
  induction f generalizing p with
  | everything => exact h.elim
  | term name content => exact .primary (derives_term name content p)
  | conj l r ihl ihr =>
      rw [pieces, locate_append]
      exact .adjacent (derives_alternative (ihl h.1) p) (derives_conjunct (ihr h.2) _)
  | disj l r ihl ihr =>
      rw [pieces, locate_append]
      exact .or (derives_disjunction (ihl h.1 p)) rfl (derives_alternative (ihr h.2) _)
  | neg f ih => exact .not rfl (derives_conjunct (ih h) _)

def tokenCount (ps : List Piece) : Nat := ps.countP fun p => p.kind.isSome

theorem length_locate (p : Position) (ps : List Piece) : (locate p ps).length = tokenCount ps := by
  induction ps generalizing p with
  | nil => rfl
  | cons q ps ih =>
      obtain ⟨kind, text⟩ := q
      cases kind <;> simp [locate, tokenCount, ih]

theorem tokenCount_append (ps qs : List Piece) : tokenCount (ps ++ qs) = tokenCount ps + tokenCount qs :=
  List.countP_append

theorem tokenCount_token (k : Token.Kind) (t : Text) (ps : List Piece) :
    tokenCount (token k t :: ps) = tokenCount ps + 1 := by
  simp [tokenCount, token]

theorem tokenCount_blank (ps : List Piece) : tokenCount (blank :: ps) = tokenCount ps := by
  simp [tokenCount, blank]

theorem tokenCount_enclose (f : Filter) (least : Nat) (ps : List Piece) :
    tokenCount (enclose (f.rank < least) ps) = tokenCount ps + 2 * f.parens least := by
  by_cases h : f.rank < least <;> simp [enclose, parens, h, tokenCount, token]

theorem tokenCount_conj (l r : Filter) :
    tokenCount (conj l r).pieces =
      tokenCount l.pieces + 2 * l.parens 1 + (tokenCount r.pieces + 2 * r.parens 2) := by
  rw [pieces, tokenCount_append, tokenCount_blank, tokenCount_enclose, tokenCount_enclose]

theorem tokenCount_disj (l r : Filter) :
    tokenCount (disj l r).pieces = tokenCount l.pieces + (tokenCount r.pieces + 2 * r.parens 1 + 1) := by
  rw [pieces, tokenCount_append, tokenCount_blank, tokenCount_token, tokenCount_blank, tokenCount_enclose]

theorem tokenCount_neg (f : Filter) : tokenCount (neg f).pieces = tokenCount f.pieces + 2 * f.parens 2 + 1 := by
  rw [pieces, tokenCount_token, tokenCount_enclose]

theorem tokenCount_termPieces_le (name content : Text) : tokenCount (termPieces name content) ≤ 3 := by
  rw [termPieces]
  split
  · exact Nat.le_trans List.countP_le_length (by simp)
  · exact List.countP_le_length

theorem tokenCount_keyword_le (content : Text) : tokenCount (termPieces keywordName content) ≤ 1 := by
  rw [termPieces, if_pos rfl]
  exact List.countP_le_length

theorem parens_le_one (f : Filter) (least : Nat) : f.parens least ≤ 1 := by
  rw [parens]
  split <;> omega

theorem parens_mono (f : Filter) {k k' : Nat} (h : k ≤ k') : f.parens k ≤ f.parens k' := by
  rw [parens, parens]
  split <;> split <;> omega

theorem parens_zero (f : Filter) : f.parens 0 = 0 := if_neg (Nat.not_lt_zero _)

/-- A filter of a lower rank stands in parentheses in the texts of a category. -/
def leastRank : Category → Nat
  | .disjunction => 0
  | .conjunction => 1
  | .unary | .primary => 2

theorem canonical_le {c : Category} {ts : List Token} {f : Filter} {n : Nat} (h : Derives c ts f n) :
    tokenCount f.pieces + 2 * f.parens (leastRank c) ≤ ts.length ∧ f.nesting + f.parens (leastRank c) ≤ n := by
  -- The parentheses that the text of a category needs are counted on both sides, so that they may stay or be left out.
  induction h with
  | @conjunction ts f n _ ih =>
      have hp : f.parens 0 ≤ f.parens 1 := f.parens_mono (by omega)
      simp only [leastRank] at ih ⊢
      omega
  | @or ts us l r t m n _ _ _ ihl ihr =>
      have hp : (disj l r).parens 0 = 0 := rfl
      have hl := l.parens_zero
      simp only [leastRank, nesting, tokenCount_disj, List.length_append, List.length_cons] at ihl ihr ⊢
      omega
  | @unary ts f n _ ih =>
      have hp : f.parens 1 ≤ f.parens 2 := f.parens_mono (by omega)
      simp only [leastRank] at ih ⊢
      omega
  | @and ts us l r t m n _ _ _ ihl ihr =>
      have hp : (conj l r).parens 1 = 0 := rfl
      simp only [leastRank, nesting, tokenCount_conj, List.length_append, List.length_cons] at ihl ihr ⊢
      omega
  | @adjacent ts us l r m n _ _ ihl ihr =>
      have hp : (conj l r).parens 1 = 0 := rfl
      simp only [leastRank, nesting, tokenCount_conj, List.length_append] at ihl ihr ⊢
      omega
  | primary _ ih => exact ih
  | @not t ts f n _ _ ih =>
      have hp : (neg f).parens 2 = 0 := rfl
      simp only [leastRank, nesting, tokenCount_neg, List.length_cons] at ih ⊢
      omega
  | @group o ts c f n _ _ _ ih =>
      have hp := f.parens_le_one 2
      simp only [leastRank, List.length_cons, List.length_append, List.length_nil] at ih ⊢
      omega
  | qualifier _ _ _ _ => exact ⟨tokenCount_termPieces_le _ _, Nat.le_refl _⟩
  | keyword _ => exact ⟨tokenCount_keyword_le _, Nat.le_refl _⟩

theorem printable_of_derives {c : Category} {ts : List Token} {f : Filter} {n : Nat} (h : Derives c ts f n)
    (hts : ∀ t ∈ ts, t.kind.Fits t.lexeme) : f.Printable := by
  induction h with
  | conjunction _ ih | unary _ ih | primary _ ih => exact ih hts
  | or _ _ _ ihl ihr | and _ _ _ ihl ihr =>
      exact ⟨ihl fun t ht => hts t (by simp [ht]), ihr fun t ht => hts t (by simp [ht])⟩
  | adjacent _ _ ihl ihr => exact ⟨ihl fun t ht => hts t (by simp [ht]), ihr fun t ht => hts t (by simp [ht])⟩
  | not _ _ ih => exact ih fun t ht => hts t (by simp [ht])
  | group _ _ _ ih => exact ih fun t ht => hts t (by simp [ht])
  | @qualifier name colon content hn _ hc _ =>
      have hname := hts name (by simp)
      rw [hn] at hname
      exact ⟨hname, Token.not_mem_text (hts content (by simp)) hc⟩
  | @keyword content hc => exact ⟨by decide, Token.not_mem_text (hts content (by simp)) hc⟩

end Triage.Filter
