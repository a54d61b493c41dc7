import Triage.Proofs.Filter.Viability

/-!
What is said of a faulty token at which reading stops. It tells its own fault wherever it stands, but for one place: after
a whole filter within parentheses, where a closing parenthesis is asked for instead.
-/

namespace Triage

namespace Token

theorem eq_of_span_eq_of_append {source : Text} {before between after rest : List Token} {t u : Token}
    (h : all source = before ++ t :: rest) (hrest : t :: rest = between ++ u :: after) (hspan : t.span = u.span)
    (ht : t.span.start < t.span.stop) : between = [] ∧ t = u := by
  cases between with
  | nil => exact ⟨rfl, (List.cons.inj hrest).1⟩
  | cons v between =>
      obtain ⟨rfl, rfl⟩ := List.cons.inj hrest
      have hpairs := pairwise_all source
      rw [h] at hpairs
      have hstop : t.span.stop ≤ u.span.start :=
        List.rel_of_pairwise_cons (List.pairwise_append.1 hpairs).2.1 (List.mem_append_right between List.mem_cons_self)
      rw [← hspan] at hstop
      exact absurd ht (Nat.not_lt.2 hstop)

theorem split_unique {source : Text} {before before' after after' : List Token} {t u : Token}
    (h : all source = before ++ t :: after) (h' : all source = before' ++ u :: after') (hspan : t.span = u.span)
    (ht : t.span.start < t.span.stop) : before = before' ∧ t = u := by
  rcases List.append_eq_append_iff.1 (h.symm.trans h') with ⟨between, rfl, hrest⟩ | ⟨between, rfl, hrest⟩
  · obtain ⟨rfl, rfl⟩ := eq_of_span_eq_of_append h hrest hspan ht
    exact ⟨(List.append_nil before).symm, rfl⟩
  · obtain ⟨rfl, rfl⟩ := eq_of_span_eq_of_append h' hrest hspan.symm (hspan ▸ ht)
    exact ⟨List.append_nil before', rfl⟩

theorem start_lt_stop_of_fault {source : Text} {t : Token} {cause : LexicalFault} (h : t ∈ all source)
    (ht : t.kind = .fault cause) : t.span.start < t.span.stop := by
  have hsolid := solid_of_mem_scan (mem_scan_of_mem_all h (by simp [ht]))
  exact Nat.lt_add_of_pos_right (Text.byteSize_pos hsolid.2)

end Token

namespace Filter

open Grammar

namespace Grammar

def AwaitsClose (ts : List Token) : Prop :=
  ∃ earlier opening inner f n, ts = earlier ++ opening :: inner ∧ opening.kind = .leftParen ∧
    Derives .disjunction inner f n

end Grammar

namespace Draft

theorem awaitsClose_of_need {d : Draft} {ts : List Token} (h : run? {} ts = some d) (hneed : d.need = .nothing)
    (houter : d.outer ≠ []) : AwaitsClose ts := by
  obtain ⟨us, vs, rfl, henclosed, hpending⟩ := reads_of_run? h
  rw [hneed] at hpending
  obtain ⟨f, n, -, hf⟩ := hpending.result?
  cases hlevels : d.outer with
  | nil => exact absurd hlevels houter
  | cons l ls =>
      rw [hlevels] at henclosed
      cases henclosed with
      | @cons _ _ earlier opened opening _ _ hopening =>
          exact ⟨earlier ++ opened, opening, vs, f, n, by simp, hopening, hf⟩

theorem step?_leftParen {d e : Draft} {t : Token} (ht : t.kind = .leftParen) (h : d.step? t = some e) :
    e.need = .term ∧ e.level = {} ∧ e.outer ≠ [] := by
  have hbegin : d.beginTerm? t = some { d with outer := d.level :: d.outer, level := {}, need := .term } := by
    simp [beginTerm?, ht]
  rw [step?] at h
  cases hn : d.need with
  | term | nothing =>
      simp only [hn, hbegin, Option.some_or, Option.some.injEq] at h
      subst h
      exact ⟨rfl, rfl, List.cons_ne_nil _ _⟩
  | colon name => simp [hn, ht] at h
  | content name colon => simp [hn, ht, Token.Kind.isContent] at h

theorem need_of_awaitsClose {d : Draft} {ts : List Token} (h : run? {} ts = some d) (hclose : AwaitsClose ts) :
    d.need = .nothing ∧ d.outer ≠ [] := by
  obtain ⟨earlier, opening, inner, f, n, rfl, hopening, hf⟩ := hclose
  rw [run?_append] at h
  obtain ⟨before, -, h⟩ := Option.bind_eq_some_iff.1 h
  obtain ⟨opened, hopened, h⟩ := Option.bind_eq_some_iff.1 h
  obtain ⟨hneed, hlevel, houter⟩ := step?_leftParen hopening hopened
  obtain ⟨l, rs, hrun, -⟩ := reaches_of_derives hf opened ⟨hneed, hlevel⟩
  obtain rfl := Option.some.inj (h.symm.trans hrun.run)
  exact ⟨rfl, houter⟩

/-- Whether what has been read may be followed by a faulty token: a name without its colon may not. -/
def MayMeetFault (d : Draft) : Prop := ∀ name, d.need ≠ .colon name

theorem mayMeetFault_of_run? {source : Text} {before after : List Token} {t : Token} {cause : LexicalFault} {d : Draft}
    (hall : Token.all source = before ++ t :: after) (ht : t.kind = .fault cause) (h : run? {} before = some d) :
    d.MayMeetFault := by
  intro name hneed
  have hcolon := colon_of_need hall h hneed
  rw [ht] at hcolon
  cases hcolon

section

variable {d : Draft} {ts : List Token} {t : Token} {cause : LexicalFault} (h : run? {} ts = some d)
  (hdepth : d.depth ≤ maxDepth) (ht : t.kind = .fault cause)

include h hdepth

theorem fault_blame_of_awaitsClose (hclose : AwaitsClose ts) : (d.blame t).fault = .expectedClose := by
  obtain ⟨hneed, houter⟩ := need_of_awaitsClose h hclose
  rw [blame, if_neg (Nat.not_lt.2 hdepth), hneed]
  exact if_neg houter

include ht

theorem fault_blame_of_not_awaitsClose (hmay : d.MayMeetFault) (hclose : ¬ AwaitsClose ts) :
    (d.blame t).fault = .lexical cause := by
  have hrefuse : refuse t = .lexical cause := by simp [refuse, ht]
  rw [blame, if_neg (Nat.not_lt.2 hdepth)]
  cases hneed : d.need with
  | term => exact hrefuse
  | nothing =>
      have houter : d.outer = [] := by
        by_contra houter
        exact hclose (awaitsClose_of_need h hneed houter)
      simp only [houter, if_true, hrefuse]
  | colon name => exact absurd hneed (hmay name)
  | content name colon => simp only [ht]

end

end Draft

theorem stop_at_span {source : Text} {m : Misreading} (hshort : (Token.scan source).length ≤ 1024)
    (h : (read source).result = .error m) (hdeep : m.fault ≠ .tooDeep) {before after : List Token} {t : Token}
    {cause : LexicalFault} (hall : Token.all source = before ++ t :: after) (ht : t.kind = .fault cause)
    (hspan : m.token.span = t.span) :
    ∃ d : Draft, Draft.run? {} before = some d ∧ d.depth ≤ maxDepth ∧ m = d.blame t := by
  obtain ⟨before', u, after', d, hall', hrun, hdepth, rfl, -, -⟩ := exists_stop hshort h hdeep
  have hsolid := Token.start_lt_stop_of_fault (hall ▸ List.mem_append_right before List.mem_cons_self) ht
  rcases d.token_blame u with htoken | ⟨name, colon, hneed, hcolon⟩
  · rw [htoken] at hspan
    obtain ⟨rfl, rfl⟩ := Token.split_unique hall hall' hspan.symm hsolid
    exact ⟨d, hrun, hdepth, rfl⟩
  · -- A colon is blamed, which is no faulty token.
    obtain ⟨earlier, hbefore, -, hkind⟩ := Draft.named_of_need hrun hneed
    have hcolonAt : Token.all source = (earlier ++ [name]) ++ colon :: (u :: after') := by
      rw [hall', hbefore]
      simp
    rw [hcolon] at hspan
    obtain ⟨-, rfl⟩ := Token.split_unique hall hcolonAt hspan.symm hsolid
    rw [ht] at hkind
    cases hkind

theorem message_ne_expectedClose (cause : LexicalFault) : SyntaxFault.expectedClose.message ≠ cause.message := by
  cases cause <;> decide

theorem own_message_iff_not_awaitsClose {source : Text} (hshort : (Token.scan source).length ≤ 1024) {d : Diagnostic}
    (hd : d ∈ (compile source).diagnostics) (hkind : d.kind = .syntactic)
    (hdeep : d.message ≠ "Filter is nested too deeply") {before after : List Token} {t : Token} {cause : LexicalFault}
    (hall : Token.all source = before ++ t :: after) (ht : t.kind = .fault cause) (hspan : d.span = t.span) :
    (d.message = cause.message ↔ ¬ AwaitsClose before) ∧ (AwaitsClose before → d.message = "Expected ')'") := by
  rcases mem_diagnostics hd with ⟨r, -, hr⟩ | ⟨m, hm, rfl⟩
  · rw [Reading.kind_of_diagnostic? hr] at hkind
    cases hkind
  · have hfault : m.fault ≠ .tooDeep := by
      intro hfault
      exact hdeep (congrArg SyntaxFault.message hfault)
    obtain ⟨draft, hrun, hdepth, rfl⟩ := stop_at_span hshort hm hfault hall ht hspan
    have hclose (h : AwaitsClose before) : (draft.blame t).diagnostic.message = SyntaxFault.expectedClose.message :=
      congrArg SyntaxFault.message (Draft.fault_blame_of_awaitsClose hrun hdepth h)
    refine ⟨⟨fun hmessage h => ?_, fun h => ?_⟩, hclose⟩
    · exact message_ne_expectedClose cause ((hclose h).symm.trans hmessage)
    · have hmay := Draft.mayMeetFault_of_run? hall ht hrun
      exact congrArg SyntaxFault.message (Draft.fault_blame_of_not_awaitsClose hrun hdepth ht hmay h)

def openString : Text := "(crash or title:\"open".toList

theorem own_message_iff_not_awaitsClose_content :
    (Token.scan openString).length ≤ 1024 ∧
    ∃ d ∈ (compile openString).diagnostics, d.kind = .syntactic ∧ d.message ≠ "Filter is nested too deeply" ∧
      ∃ before after t, Token.all openString = before ++ t :: after ∧ t.kind = .fault .unterminatedString ∧
        d.span = t.span ∧ ¬ AwaitsClose before ∧ d.message = "Unterminated string" := by
  have hshort : (Token.scan openString).length ≤ 1024 := by decide +kernel
  have hfault : ∃ d ∈ (compile openString).diagnostics, d.kind = .syntactic ∧
      d.message ≠ "Filter is nested too deeply" ∧ d.message = "Unterminated string" ∧ d.span = ⟨16, 21⟩ := by
    decide +kernel
  have hall : ∃ t, Token.all openString = (Token.all openString).take 5 ++ t :: (Token.all openString).drop 6 ∧
      t.kind = .fault .unterminatedString ∧ t.span = ⟨16, 21⟩ :=
    ⟨⟨.fault .unterminatedString, "\"open".toList, ⟨16, 1, 17⟩⟩, by decide +kernel⟩
  obtain ⟨d, hd, hkind, hdeep, hmessage, hspan⟩ := hfault
  obtain ⟨t, hall, ht, hplace⟩ := hall
  have hspan : d.span = t.span := hspan.trans hplace.symm
  have hown := own_message_iff_not_awaitsClose hshort hd hkind hdeep hall ht hspan
  exact ⟨hshort, d, hd, hkind, hdeep, _, _, t, hall, ht, hspan, hown.1.1 hmessage, hmessage⟩

theorem fault_hidden_within_parentheses :
    ¬ ∀ source, (Token.all source).length ≤ 1024 → ∀ d ∈ (compile source).diagnostics, d.kind = .syntactic →
      d.message ≠ "Filter is nested too deeply" → ∀ t ∈ Token.all source, ∀ cause, t.kind = .fault cause →
        d.span = t.span → d.message = cause.message := by
  intro h
  have hshort : (Token.all "(crash \"open".toList).length ≤ 1024 := by decide +kernel
  have hfault : ∃ d ∈ (compile "(crash \"open".toList).diagnostics, d.kind = .syntactic ∧ d.message = "Expected ')'" ∧
      ∃ t ∈ Token.all "(crash \"open".toList, t.kind = .fault .unterminatedString ∧ d.span = t.span := by
    decide +kernel
  obtain ⟨d, hd, hkind, hmessage, t, ht, hcause, hspan⟩ := hfault
  have hdeep : d.message ≠ "Filter is nested too deeply" := by
    rw [hmessage]
    decide
  have hown := h _ hshort d hd hkind hdeep t ht _ hcause hspan
  rw [hmessage] at hown
  exact message_ne_expectedClose .unterminatedString hown

end Filter

end Triage
