import Triage.Proofs.Filter.Location

/-!
Reading stops at the first token that no filter has in its place: what was read before it can be completed to a filter,
and no filter, of any size, begins with the tokens up to it. Missing content is shown at the colon before it.
-/

namespace Triage.Filter

namespace Grammar

inductive Complete : List Token → Prop
  | nothing {finish} : finish.kind = .finish → Complete [finish]
  | filter {ts f n finish} : Derives .disjunction ts f n → finish.kind = .finish → Complete (ts ++ [finish])

def Viable (ts : List Token) : Prop := ∃ rest, Complete (ts ++ rest)

structure FirstImpossible (stream before : List Token) (t : Token) : Prop where
  stands : ∃ after, stream = before ++ t :: after
  impossible : ¬ Viable (before ++ [t])
  first : ∀ earlier u later, before = earlier ++ u :: later → Viable (earlier ++ [u])

def MissesContent (before : List Token) (t colon : Token) : Prop :=
  (∃ earlier name, before = earlier ++ [name, colon] ∧ name.kind = .name ∧ colon.kind = .colon) ∧
    ∀ cause, t.kind ≠ .fault cause

theorem FirstImpossible.eq_of_append {stream before between after after' : List Token} {t t' : Token}
    (h : FirstImpossible stream before t) (h' : FirstImpossible stream (before ++ between) t')
    (hrest : t :: after = between ++ t' :: after') : between = [] ∧ t = t' := by
  cases between with
  | nil => exact ⟨rfl, (List.cons.inj hrest).1⟩
  | cons u between =>
      obtain ⟨rfl, -⟩ := List.cons.inj hrest
      exact absurd (h'.first before t between rfl) h.impossible

theorem FirstImpossible.unique {stream before before' : List Token} {t t' : Token}
    (h : FirstImpossible stream before t) (h' : FirstImpossible stream before' t') : before = before' ∧ t = t' := by
  obtain ⟨after, hstream⟩ := h.stands
  obtain ⟨after', hstream'⟩ := h'.stands
  rcases List.append_eq_append_iff.1 (hstream.symm.trans hstream') with ⟨between, rfl, hrest⟩ | ⟨between, rfl, hrest⟩
  · obtain ⟨rfl, rfl⟩ := h.eq_of_append h' hrest
    exact ⟨(List.append_nil before).symm, rfl⟩
  · obtain ⟨rfl, rfl⟩ := h'.eq_of_append h hrest
    exact ⟨List.append_nil before', rfl⟩

end Grammar

open Grammar

namespace Draft

theorem step?_finish (d : Draft) {t : Token} (ht : t.kind = .finish) : d.step? t = none := by
  rw [step?]
  cases d.need <;> simp [beginTerm?, followTerm?, ht, Token.Kind.isContent]

theorem run?_of_derives {ts : List Token} {f : Filter} {n : Nat} (h : Derives .disjunction ts f n) :
    ∃ d, run? {} ts = some d ∧ d.complete? = some f := by
  obtain ⟨l, rs, hrun, ⟨hf, -⟩, -⟩ := reaches_of_derives h {} ⟨rfl, rfl⟩
  exact ⟨_, hrun.run, by simp [complete?, settle, hf]⟩

def contentAt (offset : Nat) : Token := ⟨.content none, "x".toList, ⟨offset, 1, 1⟩⟩

def closing : Token := ⟨.rightParen, ")".toList, .origin⟩

theorem step?_contentAt {d : Draft} {name colon : Token} (hn : d.need = .content name colon) :
    d.step? (contentAt colon.span.stop) =
      some (d.addTerm name.lexeme "x".toList name (contentAt colon.span.stop)) := by
  rw [step?, hn]
  exact if_pos ⟨rfl, rfl⟩

theorem exists_term (d : Draft) :
    ∃ ts e f, d.run? ts = some e ∧ e.need = .nothing ∧ e.level.result? = some f := by
  cases hn : d.need with
  | term =>
      have hstep : d.step? (contentAt 0) = _ := step?_of_beginTerm? (.inl hn) rfl
      exact ⟨[contentAt 0], _, _, run?_cons hstep [], rfl, rfl⟩
  | nothing =>
      have hstep : d.step? (contentAt 0) = _ := step?_of_beginTerm? (.inr hn) rfl
      exact ⟨[contentAt 0], _, _, run?_cons hstep [], rfl, rfl⟩
  | colon name =>
      let colon : Token := ⟨.colon, [':'], .origin⟩
      let e : Draft := { d with need := .content name colon }
      have hstep : d.step? colon = some e := by simp [step?, hn, colon, e]
      have hcontent := step?_contentAt (show e.need = .content name colon from rfl)
      exact ⟨[colon, contentAt colon.span.stop], _, _, (run?_cons hstep _).trans (run?_cons hcontent []), rfl, rfl⟩
  | content name colon =>
      exact ⟨[contentAt colon.span.stop], _, _, run?_cons (step?_contentAt hn) [], rfl, rfl⟩

theorem exists_closed {d : Draft} {f : Filter} (hn : d.need = .nothing) (hf : d.level.result? = some f) :
    ∃ ts e g, d.run? ts = some e ∧ e.complete? = some g := by
  induction ho : d.outer generalizing d f with
  | nil => exact ⟨[], d, f, rfl, by simp [complete?, hn, ho, hf]⟩
  | cons l ls ih =>
      let e : Draft := { d with outer := ls, level := l.place f, need := .nothing }
      have hclose : d.step? closing = some e :=
        step?_of_followTerm? hn rfl (by simp [followTerm?, closing, close?, ho, hf, e])
      obtain ⟨ts, e', g, hrun, hg⟩ := ih (show e.need = .nothing from rfl) (show e.level.result? = some _ from rfl) rfl
      exact ⟨closing :: ts, e', g, (run?_cons hclose ts).trans hrun, hg⟩

theorem exists_completion (d : Draft) : ∃ ts e f, d.run? ts = some e ∧ e.complete? = some f := by
  obtain ⟨ts, e, f, hterm, hn, hf⟩ := d.exists_term
  obtain ⟨us, e', g, hclosed, hg⟩ := exists_closed hn hf
  exact ⟨ts ++ us, e', g, by rw [run?_append, hterm, Option.bind_some, hclosed], hg⟩

theorem viable_of_run? {d : Draft} {ts : List Token} (h : run? {} ts = some d) : Viable ts := by
  obtain ⟨us, e, f, hus, hf⟩ := d.exists_completion
  have hwhole : run? {} (ts ++ us) = some e := by rw [run?_append, h, Option.bind_some, hus]
  obtain ⟨n, hd⟩ := derives_of_run? hwhole hf
  exact ⟨us ++ [Token.finish []], by rw [← List.append_assoc]; exact .filter hd rfl⟩

theorem not_viable_of_step? {d : Draft} {ts : List Token} {t : Token} (h : run? {} ts = some d)
    (ht : d.step? t = none) (hfinish : t.kind = .finish → ts ≠ [] ∧ d.complete? = none) : ¬ Viable (ts ++ [t]) := by
  rintro ⟨rest, hrest⟩
  rw [List.append_assoc, List.singleton_append] at hrest
  generalize hstream : ts ++ t :: rest = stream at hrest
  cases hrest with
  | nothing hk =>
      rcases List.append_eq_singleton_iff.1 hstream with ⟨hts, ht'⟩ | ⟨-, ht'⟩
      · obtain ⟨rfl, -⟩ := List.cons.inj ht'
        exact (hfinish hk).1 hts
      · cases ht'
  | @filter us f n finish hd hk =>
      obtain ⟨e, hrun, hf⟩ := run?_of_derives hd
      rcases List.eq_nil_or_concat rest with rfl | ⟨rest, last, rfl⟩
      · -- The token is the end of the stream, and what was read before it is a whole filter.
        obtain ⟨rfl, ht'⟩ := List.append_inj' hstream rfl
        obtain rfl := List.singleton_inj.1 ht'
        obtain rfl := Option.some.inj (h.symm.trans hrun)
        rw [(hfinish hk).2] at hf
        cases hf
      · have hstream' : (ts ++ t :: rest) ++ [last] = us ++ [finish] := by simpa using hstream
        obtain ⟨rfl, -⟩ := List.append_inj' hstream' rfl
        rw [run?_append, h, Option.bind_some, run?, ht] at hrun
        cases hrun

theorem stop_read {d : Draft} {ts : List Token} {finish : Token} {m : Misreading} (hfinish : finish.kind = .finish)
    (hts : ∀ t ∈ ts, t.kind ≠ .finish) (h : (d.read finish ts).result = .error m) :
    ∃ before t after e, ts ++ [finish] = before ++ t :: after ∧ d.run? before = some e ∧ m = e.blame t ∧
      (e.depth ≤ maxDepth → e.step? t = none) ∧ (t.kind = .finish → before = ts ∧ e.complete? = none) := by
  induction ts generalizing d with
  | nil =>
      rw [read] at h
      split at h
      · cases h
      · next hnone =>
          cases h
          exact ⟨[], finish, [], d, rfl, rfl, rfl, fun _ => d.step?_finish hfinish, fun _ => ⟨rfl, hnone⟩⟩
  | cons u us ih =>
      obtain ⟨hu, hus⟩ := List.forall_mem_cons.1 hts
      rw [read] at h
      split at h
      · next e he =>
          obtain ⟨before, t, after, e', hsplit, hrun, hm, hstep, hend⟩ := ih hus h
          rw [next?] at he
          split at he
          · cases he
          · refine ⟨u :: before, t, after, e', by simp [hsplit], (run?_cons he before).trans hrun, hm, hstep, ?_⟩
            intro hk
            obtain ⟨rfl, hnone⟩ := hend hk
            exact ⟨rfl, hnone⟩
      · next hnone =>
          cases h
          refine ⟨[], u, us ++ [finish], d, rfl, rfl, rfl, fun hdepth => ?_, fun hk => absurd hk hu⟩
          rwa [next?, if_neg (Nat.not_lt.2 hdepth)] at hnone

theorem need_of_name {d e : Draft} {t : Token} (ht : t.kind = .name) (h : d.step? t = some e) : e.need = .colon t := by
  have hbegin : d.beginTerm? t = some { d with need := .colon t } := by simp [beginTerm?, ht]
  rw [step?] at h
  cases hn : d.need with
  | term | nothing =>
      simp only [hn, hbegin, Option.some_or, Option.some.injEq] at h
      rw [← h]
  | colon name => simp [hn, ht] at h
  | content name colon => simp [hn, ht, Token.Kind.isContent] at h

theorem need_of_colon {d e : Draft} {name t : Token} (hn : d.need = .colon name) (h : d.step? t = some e) :
    e.need = .content name t := by
  rw [step?, hn] at h
  obtain ⟨-, he⟩ := Option.ite_none_right_eq_some.1 h
  rw [← Option.some.inj he]

theorem need_of_named {d : Draft} {ts : List Token} {name colon : Token} (hname : name.kind = .name)
    (h : run? {} (ts ++ [name, colon]) = some d) : d.need = .content name colon := by
  rw [run?_append] at h
  obtain ⟨before, -, h⟩ := Option.bind_eq_some_iff.1 h
  obtain ⟨named, hnamed, h⟩ := Option.bind_eq_some_iff.1 h
  obtain ⟨after, hafter, h⟩ := Option.bind_eq_some_iff.1 h
  cases h
  exact need_of_colon (need_of_name hname hnamed) hafter

theorem named_of_need {d : Draft} {ts : List Token} {name colon : Token} (h : run? {} ts = some d)
    (hn : d.need = .content name colon) :
    ∃ earlier, ts = earlier ++ [name, colon] ∧ name.kind = .name ∧ colon.kind = .colon := by
  obtain ⟨us, vs, rfl, -, hp⟩ := reads_of_run? h
  rw [hn] at hp
  obtain ⟨ws, -, rfl, hname, hcolon⟩ := hp
  exact ⟨us ++ ws, by simp, hname, hcolon⟩

theorem colon_of_need {source : Text} {before after : List Token} {t name : Token} {d : Draft}
    (hall : Token.all source = before ++ t :: after) (h : run? {} before = some d) (hn : d.need = .colon name) :
    t.kind = .colon := by
  obtain ⟨us, vs, rfl, -, hp⟩ := reads_of_run? h
  rw [hn] at hp
  obtain ⟨ws, -, rfl, hname⟩ := hp
  have hstream : Token.all source = (us ++ ws) ++ name :: t :: after := by
    rw [hall]
    simp
  obtain ⟨colon, rest, hcolon, hkind, -⟩ := Token.colon_of_name hstream hname
  obtain ⟨rfl, -⟩ := List.cons.inj hcolon
  exact hkind

theorem token_blame_of_misses {d : Draft} {ts : List Token} {t colon : Token} (h : run? {} ts = some d)
    (hdepth : d.depth ≤ maxDepth) (hmiss : MissesContent ts t colon) : (d.blame t).token = colon := by
  obtain ⟨⟨earlier, name, rfl, hname, -⟩, hfault⟩ := hmiss
  rw [blame, if_neg (Nat.not_lt.2 hdepth), need_of_named hname h]
  dsimp only
  split
  · next cause hk => exact absurd hk (hfault cause)
  · rfl

theorem token_blame_of_fault {d : Draft} {t : Token} {cause : LexicalFault} (ht : t.kind = .fault cause) :
    (d.blame t).token = t := by
  rw [blame]
  cases d.need with
  | content name colon =>
      simp only [ht]
      split <;> rfl
  | _ => split <;> rfl

theorem token_blame_of_not_misses {d : Draft} {ts : List Token} {t : Token} (h : run? {} ts = some d)
    (hmiss : ∀ colon, ¬ MissesContent ts t colon) : (d.blame t).token = t := by
  rcases d.token_blame t with htoken | ⟨name, colon, hn, -⟩
  · exact htoken
  · obtain ⟨earlier, hts, hkinds⟩ := named_of_need h hn
    have hfault : ∃ cause, t.kind = .fault cause := by
      by_contra hfault
      exact hmiss colon ⟨⟨earlier, name, hts, hkinds⟩, not_exists.1 hfault⟩
    obtain ⟨cause, hk⟩ := hfault
    exact token_blame_of_fault hk

theorem run?_of_append {d : Draft} {ts us : List Token} {e : Draft} (h : d.run? (ts ++ us) = some e) :
    ∃ between, d.run? ts = some between := by
  rw [run?_append] at h
  obtain ⟨between, hts, -⟩ := Option.bind_eq_some_iff.1 h
  exact ⟨between, hts⟩

theorem firstImpossible_of_run? {d : Draft} {before after : List Token} {t : Token} (h : run? {} before = some d)
    (ht : d.step? t = none) (hfinish : t.kind = .finish → before ≠ [] ∧ d.complete? = none) :
    FirstImpossible (before ++ t :: after) before t where
  stands := ⟨after, rfl⟩
  impossible := not_viable_of_step? h ht hfinish
  first := by
    rintro earlier u later rfl
    rw [List.append_cons] at h
    obtain ⟨between, hrun⟩ := run?_of_append h
    exact viable_of_run? hrun

end Draft

theorem read_of_short {source : Text} (hshort : (Token.scan source).length ≤ 1024) (hne : Token.scan source ≠ []) :
    read source = Draft.read (Token.finish source) {} (Token.scan source) := by
  have hnone : (Token.scan source)[maxTokens]? = none := List.getElem?_eq_none hshort
  simp [read, hne, hnone]

theorem Draft.depth_le_of_blame {d : Draft} {t : Token} (h : (d.blame t).fault ≠ .tooDeep) : d.depth ≤ maxDepth := by
  by_contra hdepth
  exact h (by rw [blame, if_pos (Nat.not_le.1 hdepth)])

theorem exists_stop {source : Text} {m : Misreading} (hshort : (Token.scan source).length ≤ 1024)
    (h : (read source).result = .error m) (hdeep : m.fault ≠ .tooDeep) :
    ∃ before t after d, Token.all source = before ++ t :: after ∧ Draft.run? {} before = some d ∧
      d.depth ≤ maxDepth ∧ m = d.blame t ∧ d.step? t = none ∧
      (t.kind = .finish → before ≠ [] ∧ d.complete? = none) := by
  have hne : Token.scan source ≠ [] := by
    intro hnil
    simp [read, hnil] at h
  rw [read_of_short hshort hne] at h
  have hts : ∀ t ∈ Token.scan source, t.kind ≠ .finish := fun t ht => (Token.solid_of_mem_scan ht).1
  obtain ⟨before, t, after, d, hall, hrun, rfl, hstep, hend⟩ := Draft.stop_read rfl hts h
  have hdepth := Draft.depth_le_of_blame hdeep
  refine ⟨before, t, after, d, hall, hrun, hdepth, rfl, hstep hdepth, fun hk => ?_⟩
  obtain ⟨rfl, hnone⟩ := hend hk
  exact ⟨hne, hnone⟩

theorem stop_source {source : Text} {m : Misreading} (hshort : (Token.scan source).length ≤ 1024)
    (h : (read source).result = .error m) (hdeep : m.fault ≠ .tooDeep) :
    ∃ before t, FirstImpossible (Token.all source) before t ∧
      (∀ colon, MissesContent before t colon → m.token = colon) ∧
      ((∀ colon, ¬ MissesContent before t colon) → m.token = t) := by
  obtain ⟨before, t, after, d, hall, hrun, hdepth, rfl, hstep, hend⟩ := exists_stop hshort h hdeep
  rw [hall]
  exact ⟨before, t, Draft.firstImpossible_of_run? hrun hstep hend,
    fun colon => Draft.token_blame_of_misses hrun hdepth, Draft.token_blame_of_not_misses hrun⟩

theorem fault_at_first_impossible {source : Text} (hshort : (Token.scan source).length ≤ 1024) {d : Diagnostic}
    (hd : d ∈ (compile source).diagnostics) (hkind : d.kind = .syntactic)
    (hdeep : d.message ≠ "Filter is nested too deeply") :
    ∃ before t, FirstImpossible (Token.all source) before t ∧
      (∀ before' t', FirstImpossible (Token.all source) before' t' → before' = before ∧ t' = t) ∧
      (∀ colon, MissesContent before t colon → d.span = colon.span) ∧
      ((∀ colon, ¬ MissesContent before t colon) → d.span = t.span) := by
  rcases mem_diagnostics hd with ⟨r, -, hr⟩ | ⟨m, hm, rfl⟩
  · rw [Reading.kind_of_diagnostic? hr] at hkind
    cases hkind
  · obtain ⟨before, t, hfirst, hcolon, htoken⟩ := stop_source hshort hm fun hfault => hdeep (by
      rw [Misreading.diagnostic, hfault]
      rfl)
    refine ⟨before, t, hfirst, fun before' t' hfirst' => hfirst'.unique hfirst, fun colon hmiss => ?_, fun hmiss => ?_⟩
    · rw [← hcolon colon hmiss]
      rfl
    · exact congrArg Token.span (htoken hmiss)

def detached : Text := "(crash -milestone: v1)".toList

theorem fault_at_first_impossible_detached :
    (Token.scan detached).length ≤ 1024 ∧
    ∃ d ∈ (compile detached).diagnostics, d.kind = .syntactic ∧ d.message ≠ "Filter is nested too deeply" ∧
      d.span = ⟨17, 18⟩ ∧
      ∃ before t, FirstImpossible (Token.all detached) before t ∧
        (∀ before' t', FirstImpossible (Token.all detached) before' t' → before' = before ∧ t' = t) ∧
        (∀ colon, MissesContent before t colon → d.span = colon.span) ∧
        ((∀ colon, ¬ MissesContent before t colon) → d.span = t.span) := by
  have hshort : (Token.scan detached).length ≤ 1024 := by decide +kernel
  have hfault : ∃ d ∈ (compile detached).diagnostics,
      d.kind = .syntactic ∧ d.message ≠ "Filter is nested too deeply" ∧ d.span = ⟨17, 18⟩ := by
    decide +kernel
  obtain ⟨d, hd, hkind, hdeep, hspan⟩ := hfault
  exact ⟨hshort, d, hd, hkind, hdeep, hspan, fault_at_first_impossible hshort hd hkind hdeep⟩

end Triage.Filter
