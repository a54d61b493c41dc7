import Triage.Diagnostic
import Triage.Proofs.Filter.Folding
import Triage.Proofs.Token.Folding

/-!
Texts that differ only in the case of ASCII letters are read, reported, applied and evaluated alike. The machine that
reads tokens does in small letters what it does otherwise, with what it holds in small letters.
-/

namespace Triage

open Text

namespace Filter

namespace Level

def lowerAscii (l : Level) : Level :=
  ⟨l.alternatives.map Filter.lowerAscii, l.conjuncts.map Filter.lowerAscii, l.negations⟩

theorem negate_lowerAscii (n : Nat) (f : Filter) : negate n f.lowerAscii = (negate n f).lowerAscii := by
  induction n with
  | zero => rfl
  | succ n ih => rw [negate, negate, ih, Filter.lowerAscii]

theorem place_lowerAscii (l : Level) (f : Filter) : l.lowerAscii.place f.lowerAscii = (l.place f).lowerAscii := by
  obtain ⟨alternatives, conjuncts, negations⟩ := l
  cases conjuncts <;> simp [lowerAscii, place, negate_lowerAscii, Filter.lowerAscii]

theorem result?_lowerAscii (l : Level) : l.lowerAscii.result? = l.result?.map Filter.lowerAscii := by
  obtain ⟨alternatives, conjuncts, negations⟩ := l
  cases conjuncts <;> cases alternatives <;> rfl

theorem alternative_lowerAscii (l : Level) : l.lowerAscii.alternative = l.alternative.lowerAscii := by
  rw [alternative, alternative, result?_lowerAscii]
  rfl

end Level

end Filter

def Reading.lowerAscii (r : Reading) : Reading :=
  ⟨r.name.lowerAscii, r.content.lowerAscii, r.first.lowerAscii, r.last.lowerAscii⟩

def SyntaxFault.lowerAscii : SyntaxFault → SyntaxFault
  | .unexpected lexeme => .unexpected lexeme.lowerAscii
  | .expectedColon name => .expectedColon name.lowerAscii
  | .expectedContent name => .expectedContent name.lowerAscii
  | fault => fault

def Misreading.lowerAscii (m : Misreading) : Misreading := ⟨m.fault.lowerAscii, m.token.lowerAscii⟩

namespace Filter

def Need.lowerAscii : Need → Need
  | .term => .term
  | .nothing => .nothing
  | .colon name => .colon name.lowerAscii
  | .content name mark => .content name.lowerAscii mark.lowerAscii

namespace Draft

def lowerAscii (d : Draft) : Draft :=
  ⟨d.outer.map Level.lowerAscii, d.level.lowerAscii, d.readings.map Reading.lowerAscii, d.need.lowerAscii⟩

theorem need_lowerAscii (d : Draft) : d.lowerAscii.need = d.need.lowerAscii := rfl

theorem depth_lowerAscii (d : Draft) : d.lowerAscii.depth = d.depth := by
  simp [depth, lowerAscii, List.foldr_map, Level.lowerAscii]

theorem addTerm_lowerAscii (d : Draft) (name content : Text) (first last : Token) :
    d.lowerAscii.addTerm name.lowerAscii content.lowerAscii first.lowerAscii last.lowerAscii =
      (d.addTerm name content first last).lowerAscii := by
  have hplace := Level.place_lowerAscii d.level (.term name content)
  rw [Filter.lowerAscii] at hplace
  simp [addTerm, lowerAscii, hplace, Reading.lowerAscii, Need.lowerAscii]

theorem beginTerm?_lowerAscii (d : Draft) (t : Token) :
    d.lowerAscii.beginTerm? t.lowerAscii = (d.beginTerm? t).map lowerAscii := by
  rw [beginTerm?, beginTerm?, Token.kind_lowerAscii]
  cases hk : t.kind with
  | content quoted =>
      have hterm := d.addTerm_lowerAscii keywordName t.text t t
      have hname : keywordName.lowerAscii = keywordName := by decide
      rw [← Token.text_lowerAscii (by rw [hk]; rfl), hname] at hterm
      simp only [Token.Kind.lowerAscii, hterm, Option.map_some]
  | _ => rfl

theorem close?_lowerAscii (d : Draft) : d.lowerAscii.close? = d.close?.map lowerAscii := by
  have hresult := d.level.result?_lowerAscii
  simp only [close?, lowerAscii, hresult]
  cases d.outer with
  | nil => rfl
  | cons l ls =>
      cases d.level.result? with
      | none => rfl
      | some f => simp [l.place_lowerAscii, lowerAscii, Need.lowerAscii]

theorem followTerm?_lowerAscii (d : Draft) (t : Token) :
    d.lowerAscii.followTerm? t.lowerAscii = (d.followTerm? t).map lowerAscii := by
  rw [followTerm?, followTerm?, Token.kind_lowerAscii]
  cases t.kind with
  | rightParen => exact close?_lowerAscii d
  | disjunction => simp [Token.Kind.lowerAscii, lowerAscii, Level.alternative_lowerAscii, Need.lowerAscii]
  | _ => rfl

theorem step?_lowerAscii (d : Draft) (t : Token) : d.lowerAscii.step? t.lowerAscii = (d.step? t).map lowerAscii := by
  rw [step?, step?, need_lowerAscii]
  cases d.need with
  | term => exact d.beginTerm?_lowerAscii t
  | nothing =>
      simp only [Need.lowerAscii, beginTerm?_lowerAscii, followTerm?_lowerAscii]
      cases d.beginTerm? t <;> rfl
  | colon name =>
      have hcolon : t.kind.lowerAscii = .colon ↔ t.kind = .colon := by
        cases t.kind <;> simp [Token.Kind.lowerAscii]
      simp only [Need.lowerAscii, Token.kind_lowerAscii, hcolon]
      split <;> rfl
  | content name mark =>
      simp only [Need.lowerAscii, Token.kind_lowerAscii, Token.Kind.isContent_lowerAscii, Token.span_lowerAscii,
        Token.lexeme_lowerAscii]
      split
      · next h =>
          rw [Token.text_lowerAscii h.1, addTerm_lowerAscii]
          rfl
      · rfl

theorem next?_lowerAscii (d : Draft) (t : Token) : d.lowerAscii.next? t.lowerAscii = (d.next? t).map lowerAscii := by
  rw [next?, next?, depth_lowerAscii, step?_lowerAscii]
  split <;> rfl

theorem complete?_lowerAscii (d : Draft) : d.lowerAscii.complete? = d.complete?.map Filter.lowerAscii := by
  have hneed : d.need.lowerAscii = .nothing ↔ d.need = .nothing := by
    cases d.need <;> simp [Need.lowerAscii]
  simp only [complete?, lowerAscii, hneed, List.map_eq_nil_iff, Level.result?_lowerAscii]
  split <;> rfl

theorem refuse_lowerAscii (t : Token) : refuse t.lowerAscii = (refuse t).lowerAscii := by
  rw [refuse, refuse, Token.kind_lowerAscii]
  cases t.kind <;> rfl

theorem blame_lowerAscii (d : Draft) (t : Token) : d.lowerAscii.blame t.lowerAscii = (d.blame t).lowerAscii := by
  rw [blame, blame, depth_lowerAscii, need_lowerAscii]
  split
  · rfl
  cases d.need with
  | term =>
      simp only [Need.lowerAscii, refuse_lowerAscii]
      rfl
  | nothing =>
      have houter : d.lowerAscii.outer = [] ↔ d.outer = [] := List.map_eq_nil_iff
      simp only [Need.lowerAscii, refuse_lowerAscii, houter]
      split <;> rfl
  | colon name => rfl
  | content name mark =>
      simp only [Need.lowerAscii, Token.kind_lowerAscii]
      cases t.kind <;> rfl

end Draft

def Outcome.lowerAscii (o : Outcome) : Outcome :=
  ⟨o.readings.map Reading.lowerAscii, (o.result.map Filter.lowerAscii).mapError Misreading.lowerAscii⟩

theorem Draft.read_lowerAscii (finish : Token) (d : Draft) (ts : List Token) :
    d.lowerAscii.read finish.lowerAscii (ts.map Token.lowerAscii) = (d.read finish ts).lowerAscii := by
  induction ts generalizing d with
  | nil =>
      rw [List.map_nil, read, read, complete?_lowerAscii, blame_lowerAscii]
      cases d.complete? <;> rfl
  | cons t ts ih =>
      rw [List.map_cons, read, read, next?_lowerAscii, blame_lowerAscii]
      cases d.next? t with
      | none => rfl
      | some next => exact ih next

theorem read_lowerAscii (source : Text) : read source.lowerAscii = (read source).lowerAscii := by
  simp only [read, Token.scan_lowerAscii, Token.finish_lowerAscii, List.map_eq_nil_iff, List.getElem?_map]
  split
  · rfl
  cases (Token.scan source)[maxTokens]? with
  | some t => rfl
  | none => exact Draft.read_lowerAscii (Token.finish source) {} (Token.scan source)

end Filter

def Diagnostic.lowerAscii (d : Diagnostic) : Diagnostic :=
  { d with message := String.ofList (Text.lowerAscii d.message.toList) }

theorem SyntaxFault.message_lowerAscii (fault : SyntaxFault) :
    Text.lowerAscii fault.lowerAscii.message.toList = Text.lowerAscii fault.message.toList := by
  unfold message
  cases fault with
  | unexpected _ | expectedColon _ | expectedContent _ =>
      simp only [lowerAscii, String.toList_append, String.toList_ofList, lowerAscii_append, lowerAscii_lowerAscii]
  | _ => rfl

theorem SemanticFault.message_lowerAscii (fault : SemanticFault) :
    Text.lowerAscii fault.lowerAscii.message.toList = Text.lowerAscii fault.message.toList := by
  unfold message
  cases fault <;>
    simp only [lowerAscii, String.toList_append, String.toList_ofList, lowerAscii_append, lowerAscii_lowerAscii]

theorem Misreading.diagnostic_lowerAscii (m : Misreading) :
    m.lowerAscii.diagnostic.lowerAscii = m.diagnostic.lowerAscii := by
  simp [diagnostic, lowerAscii, Diagnostic.lowerAscii, SyntaxFault.message_lowerAscii]

theorem Reading.diagnostic?_lowerAscii (r : Reading) :
    r.lowerAscii.diagnostic?.map Diagnostic.lowerAscii = r.diagnostic?.map Diagnostic.lowerAscii := by
  simp only [diagnostic?, lowerAscii, Qualifier.validate_lowerAscii]
  cases Qualifier.validate r.name r.content with
  | ok q => rfl
  | error fault =>
      show some (Diagnostic.lowerAscii ⟨_, fault.lowerAscii.message, _, _, _⟩) =
        some (Diagnostic.lowerAscii ⟨_, fault.message, _, _, _⟩)
      simp only [Diagnostic.lowerAscii, fault.message_lowerAscii, Token.span_lowerAscii, Token.position_lowerAscii]

namespace Filter

theorem compile_lowerAscii (source : Text) :
    (compile source.lowerAscii).filter = (compile source).filter.lowerAscii ∧
    (compile source.lowerAscii).diagnostics.map Diagnostic.lowerAscii =
      (compile source).diagnostics.map Diagnostic.lowerAscii := by
  have hsemantic (rs : List Reading) :
      ((rs.map Reading.lowerAscii).filterMap Reading.diagnostic?).map Diagnostic.lowerAscii =
        (rs.filterMap Reading.diagnostic?).map Diagnostic.lowerAscii := by
    simp only [List.filterMap_map, List.map_filterMap, Function.comp_def, Reading.diagnostic?_lowerAscii]
  have hread := read_lowerAscii source
  simp only [compile, hread, Outcome.lowerAscii]
  cases (read source).result with
  | ok f => exact ⟨rfl, hsemantic _⟩
  | error misreading =>
      refine ⟨rfl, ?_⟩
      show (_ ++ [misreading.lowerAscii.diagnostic]).map _ = (_ ++ [misreading.diagnostic]).map _
      simp only [List.map_append, List.map_cons, List.map_nil, hsemantic, Misreading.diagnostic_lowerAscii]

/-- How texts that differ only in the case of letters are alike. Of their filters and diagnostics, only what quotes the
texts may differ, and that only in case. -/
structure Alike (s t : Text) : Prop where
  tokens : (Token.all s).map (fun token => (token.kind.label, token.span)) =
    (Token.all t).map fun token => (token.kind.label, token.span)
  filter : (compile s).filter.lowerAscii = (compile t).filter.lowerAscii
  diagnostics : (compile s).diagnostics.map Diagnostic.lowerAscii = (compile t).diagnostics.map Diagnostic.lowerAscii
  canApply : (compile s).filter.canApply = (compile t).filter.canApply
  select : ∀ ctx, (compile s).filter.select ctx = (compile t).filter.select ctx

theorem alike_of_sameWord {s t : Text} (h : s.sameWord t) : Alike s t := by
  have hst : s.lowerAscii = t.lowerAscii := sameWord_iff.1 h
  have htokens (source : Text) :
      (Token.all source.lowerAscii).map (fun token => (token.kind.label, token.span)) =
        (Token.all source).map fun token => (token.kind.label, token.span) := by
    simp only [Token.all_lowerAscii, List.map_map, Function.comp_def, Token.kind_lowerAscii,
      Token.Kind.label_lowerAscii, Token.span_lowerAscii]
  obtain ⟨hs, hdiagnostics⟩ := compile_lowerAscii s
  obtain ⟨ht, hdiagnostics'⟩ := compile_lowerAscii t
  have hfilter : (compile s).filter.lowerAscii = (compile t).filter.lowerAscii := by
    rw [← hs, hst, ht]
  constructor
  case tokens => rw [← htokens s, hst, htokens t]
  case filter => exact hfilter
  case diagnostics => rw [← hdiagnostics, hst, hdiagnostics']
  case canApply => rw [← canApply_lowerAscii, hfilter, canApply_lowerAscii]
  case select =>
    intro ctx
    rw [← select_lowerAscii, hfilter, select_lowerAscii]

theorem alike_of_sameWord_spellings :
    let loud := "(Label:BUG Or NOT Milestone:CURRENT+1) AND SORT:-Updated Colour:Red".toList
    let quiet := "(label:bug or not milestone:current+1) and sort:-updated colour:red".toList
    Text.sameWord loud quiet ∧ (compile loud).filter ≠ (compile quiet).filter ∧ (compile loud).hasErrors ∧
      Alike loud quiet :=
  ⟨by decide +kernel, by decide +kernel, by decide +kernel, alike_of_sameWord (by decide +kernel)⟩

end Filter

end Triage
