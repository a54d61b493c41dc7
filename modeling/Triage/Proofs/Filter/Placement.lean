import Triage.Proofs.Filter.Soundness
import Triage.Proofs.Token.Coverage

namespace Triage

def Reading.span (r : Reading) : Span := ⟨r.first.span.start, r.last.span.stop⟩

/-- The text at the span of a term is the term as it is written, quotes included. -/
def Reading.StandsIn (source : Text) (r : Reading) : Prop :=
  r.last.kind.isContent ∧ r.last.text = r.content ∧
    (r.first = r.last ∧ r.name = Filter.keywordName ∧ source.slice? r.span = some r.last.lexeme ∨
      r.first.kind = .name ∧ source.slice? r.span = some (r.name ++ ':' :: r.last.lexeme))

namespace Filter

inductive TermsIn : List Token → List Reading → Prop
  | nil : TermsIn [] []
  | other {ts rs t} : TermsIn ts rs → t.kind ≠ .name → t.kind.isContent = false → TermsIn (ts ++ [t]) rs
  | keyword {ts rs content} : TermsIn ts rs → content.kind.isContent →
      TermsIn (ts ++ [content]) (rs ++ [⟨keywordName, content.text, content, content⟩])
  | qualifier {ts rs name colon content} : TermsIn ts rs → name.kind = .name → colon.kind = .colon →
      content.kind.isContent → content.span.start = colon.span.stop →
      TermsIn (ts ++ [name, colon, content]) (rs ++ [⟨name.lexeme, content.text, name, content⟩])

theorem TermsIn.sign {ts : List Token} {rs : List Reading} {t : Token} (h : TermsIn ts rs) (ht : t.kind.IsSign) :
    TermsIn (ts ++ [t]) rs := by
  obtain ⟨kind, lexeme, position⟩ := t
  cases kind with
  | name | content | finish => cases ht
  | _ => exact h.other (by simp) rfl

namespace Draft

def Gathers (d : Draft) (ts : List Token) : Prop :=
  match d.need with
  | .term | .nothing => TermsIn ts d.readings
  | .colon name => ∃ us, TermsIn us d.readings ∧ ts = us ++ [name] ∧ name.kind = .name
  | .content name colon => ∃ us, TermsIn us d.readings ∧ ts = us ++ [name, colon] ∧ name.kind = .name ∧
      colon.kind = .colon

theorem gathers_start : Gathers {} [] := TermsIn.nil

theorem gathers_beginTerm? {d e : Draft} {ts : List Token} {t : Token} (hd : TermsIn ts d.readings)
    (h : d.beginTerm? t = some e) : e.Gathers (ts ++ [t]) := by
  rw [beginTerm?] at h
  split at h
  · next hk =>
      cases h
      exact hd.sign (hk ▸ trivial)
  · next hk =>
      cases h
      exact hd.sign (hk ▸ trivial)
  · next hk =>
      cases h
      exact ⟨ts, hd, rfl, hk⟩
  · next q hk =>
      cases h
      exact TermsIn.keyword hd (by simp [hk, Token.Kind.isContent])
  · cases h

theorem gathers_followTerm? {d e : Draft} {ts : List Token} {t : Token} (hd : TermsIn ts d.readings)
    (h : d.followTerm? t = some e) : e.Gathers (ts ++ [t]) := by
  rw [followTerm?] at h
  split at h
  · next hk =>
      cases h
      exact hd.sign (hk ▸ trivial)
  · next hk =>
      cases h
      exact hd.sign (hk ▸ trivial)
  · next hk =>
      rw [close?] at h
      split at h
      · cases h
        exact hd.sign (hk ▸ trivial)
      · cases h
  · cases h

theorem gathers_step? {d e : Draft} {ts : List Token} {t : Token} (hd : d.Gathers ts) (h : d.step? t = some e) :
    e.Gathers (ts ++ [t]) := by
  rw [Gathers] at hd
  rw [step?] at h
  split at h
  · next hn =>
      rw [hn] at hd
      exact gathers_beginTerm? hd h
  · next hn =>
      rw [hn] at hd
      rcases Option.or_eq_some_iff.1 h with h | ⟨-, h⟩
      · exact gathers_beginTerm? hd h
      · exact gathers_followTerm? hd h
  · next name hn =>
      rw [hn] at hd
      obtain ⟨us, hus, rfl, hk⟩ := hd
      split at h
      · next ht =>
          cases h
          exact ⟨us, hus, by simp, hk, ht⟩
      · cases h
  · next name colon hn =>
      rw [hn] at hd
      obtain ⟨us, hus, rfl, hk, hc⟩ := hd
      split at h
      · next ht =>
          cases h
          rw [List.append_assoc]
          exact TermsIn.qualifier hus hk hc ht.1 ht.2
      · cases h

theorem token_blame (d : Draft) (t : Token) :
    (d.blame t).token = t ∨ ∃ name colon, d.need = .content name colon ∧ (d.blame t).token = colon := by
  rw [blame]
  split
  · exact .inl rfl
  · split
    · exact .inl rfl
    · exact .inl rfl
    · exact .inl rfl
    · next name colon hn =>
        split
        · exact .inl rfl
        · exact .inr ⟨name, colon, hn, rfl⟩

inductive Begun : List Token → Prop
  | nothing : Begun []
  | name {name} : name.kind = .name → Begun [name]
  | colon {name colon} : name.kind = .name → colon.kind = .colon → Begun [name, colon]

theorem gathers_stop {d : Draft} {ts : List Token} (hd : d.Gathers ts) (t : Token) :
    ∃ vs begun, ts = vs ++ begun ∧ TermsIn vs d.readings ∧ Begun begun ∧ (d.blame t).token ∈ begun ++ [t] := by
  have hblame := token_blame d t
  rw [Gathers] at hd
  cases hn : d.need with
  | term | nothing =>
      rw [hn] at hd
      exact ⟨ts, [], (List.append_nil ts).symm, hd, .nothing, by simpa [hn] using hblame⟩
  | colon name =>
      rw [hn] at hd
      obtain ⟨us, hus, rfl, hk⟩ := hd
      have htoken : (d.blame t).token = t := by simpa [hn] using hblame
      exact ⟨us, [name], rfl, hus, .name hk, by simp [htoken]⟩
  | content name colon =>
      rw [hn] at hd
      obtain ⟨us, hus, rfl, hk, hc⟩ := hd
      refine ⟨us, [name, colon], rfl, hus, .colon hk hc, ?_⟩
      rcases hblame with htoken | ⟨name', colon', hn', htoken⟩
      · simp [htoken]
      · obtain ⟨-, rfl⟩ := Need.content.inj (hn.symm.trans hn')
        simp [htoken]

theorem need_of_complete? {d : Draft} {f : Filter} (h : d.complete? = some f) : d.need = .nothing := by
  rw [complete?] at h
  split at h
  · next hn => exact hn.1
  · cases h

theorem gathers_next? {d e : Draft} {ts : List Token} {t : Token} (hd : d.Gathers ts) (h : d.next? t = some e) :
    e.Gathers (ts ++ [t]) := by
  rw [next?] at h
  split at h
  · cases h
  · exact gathers_step? hd h

theorem termsIn_read {d : Draft} {ts us : List Token} {finish : Token} {f : Filter} (hd : d.Gathers ts)
    (h : (d.read finish us).result = .ok f) : TermsIn (ts ++ us) (d.read finish us).readings := by
  induction us generalizing d ts with
  | nil =>
      rw [read] at h ⊢
      split at h
      · next g hg =>
          rw [Gathers, need_of_complete? hg] at hd
          simpa [hg] using hd
      · cases h
  | cons u us ih =>
      rw [read] at h ⊢
      split at h
      · next e he =>
          have hnext := ih (gathers_next? hd he) h
          simpa [he] using hnext
      · cases h

theorem stops_read {d : Draft} {ts us : List Token} {finish : Token} {m : Misreading} (hd : d.Gathers ts)
    (h : (d.read finish us).result = .error m) :
    ∃ vs begun t rest, ts ++ (us ++ [finish]) = vs ++ (begun ++ t :: rest) ∧ TermsIn vs (d.read finish us).readings ∧
      Begun begun ∧ m.token ∈ begun ++ [t] := by
  induction us generalizing d ts with
  | nil =>
      rw [read] at h ⊢
      split at h
      · cases h
      · next hnone =>
          cases h
          obtain ⟨vs, begun, rfl, hvs, hbegun, hmem⟩ := gathers_stop hd finish
          exact ⟨vs, begun, finish, [], by simp, by simpa [hnone] using hvs, hbegun, hmem⟩
  | cons u us ih =>
      rw [read] at h ⊢
      split at h
      · next e he =>
          obtain ⟨vs, begun, t, rest, hall, hvs, hstop⟩ := ih (gathers_next? hd he) h
          exact ⟨vs, begun, t, rest, by simpa using hall, by simpa [he] using hvs, hstop⟩
      · next hnone =>
          cases h
          obtain ⟨vs, begun, rfl, hvs, hbegun, hmem⟩ := gathers_stop hd u
          exact ⟨vs, begun, u, us ++ [finish], by simp, by simpa [hnone] using hvs, hbegun, hmem⟩

/-- Of all tokens some hold the terms that were read, and the rest the token at fault, if one is. -/
def Divides (all vs ws : List Token) (o : Outcome) : Prop :=
  all = vs ++ ws ∧ TermsIn vs o.readings ∧
    match o.result with
    | .ok _ => ws.length = 1
    | .error m => m.token ∈ ws

theorem divides_read {d : Draft} {ts : List Token} (hd : d.Gathers ts) (us : List Token) (finish : Token) :
    ∃ vs ws, Divides (ts ++ (us ++ [finish])) vs ws (d.read finish us) := by
  cases hr : (d.read finish us).result with
  | ok f => exact ⟨ts ++ us, [finish], by simp, termsIn_read hd hr, by rw [hr]; rfl⟩
  | error m =>
      obtain ⟨vs, begun, t, rest, hall, hvs, -, hmem⟩ := stops_read hd hr
      refine ⟨vs, begun ++ t :: rest, hall, hvs, ?_⟩
      rw [hr]
      rw [List.append_cons]
      exact List.mem_append_left rest hmem

end Draft

theorem divides_source (source : Text) : ∃ vs ws, Draft.Divides (Token.all source) vs ws (read source) := by
  rw [read]
  split
  · next hnil => exact ⟨[], [Token.finish source], by rw [Token.all, hnil], .nil, rfl⟩
  · split
    · next t ht =>
        have hmem : t ∈ Token.scan source := List.mem_of_getElem? ht
        exact ⟨[], Token.all source, rfl, .nil, List.mem_append_left _ hmem⟩
    · exact Draft.divides_read Draft.gathers_start _ _

/-- The tokens that a term is written with: a content alone, or a name, a colon and a content that adjoins it. -/
def WrittenIn (ts : List Token) (r : Reading) : Prop :=
  (∃ content ∈ ts, content.kind.isContent ∧ r = ⟨keywordName, content.text, content, content⟩) ∨
    ∃ before name colon content after, ts = before ++ name :: colon :: content :: after ∧ name.kind = .name ∧
      content.kind.isContent ∧ content.span.start = colon.span.stop ∧ r = ⟨name.lexeme, content.text, name, content⟩

theorem WrittenIn.append {ts : List Token} {r : Reading} (h : WrittenIn ts r) (us : List Token) :
    WrittenIn (ts ++ us) r := by
  rcases h with ⟨content, hmem, h⟩ | ⟨before, name, colon, content, after, rfl, h⟩
  · exact .inl ⟨content, List.mem_append_left us hmem, h⟩
  · exact .inr ⟨before, name, colon, content, after ++ us, by simp, h⟩

theorem WrittenIn.mem {ts : List Token} {r : Reading} (h : WrittenIn ts r) : r.first ∈ ts ∧ r.last ∈ ts := by
  rcases h with ⟨content, hmem, -, rfl⟩ | ⟨before, name, colon, content, after, rfl, -, -, -, rfl⟩
  · exact ⟨hmem, hmem⟩
  · simp

namespace TermsIn

theorem written {ts : List Token} {rs : List Reading} (h : TermsIn ts rs) : ∀ r ∈ rs, WrittenIn ts r := by
  induction h with
  | nil => simp
  | other _ _ _ ih => exact fun r hr => (ih r hr).append _
  | keyword _ hk ih =>
      intro r hr
      rcases List.mem_append.1 hr with hr | hr
      · exact (ih r hr).append _
      · exact .inl ⟨_, by simp, hk, List.mem_singleton.1 hr⟩
  | @qualifier ts _ name colon content _ hn _ hk hs ih =>
      intro r hr
      rcases List.mem_append.1 hr with hr | hr
      · exact (ih r hr).append _
      · exact .inr ⟨ts, name, colon, content, [], rfl, hn, hk, hs, List.mem_singleton.1 hr⟩

theorem ordered {ts : List Token} {rs : List Reading} (h : TermsIn ts rs)
    (hts : ts.Pairwise fun a b => a.span.stop ≤ b.span.start) :
    rs.Pairwise fun r s => r.span.stop ≤ s.span.start := by
  induction h with
  | nil => exact .nil
  | other _ _ _ ih => exact ih (List.pairwise_append.1 hts).1
  | keyword hrs _ ih | qualifier hrs _ _ _ _ ih =>
      obtain ⟨hbefore, -, hacross⟩ := List.pairwise_append.1 hts
      refine List.pairwise_append.2 ⟨ih hbefore, List.pairwise_singleton _ _, ?_⟩
      intro r hr s hs
      rw [List.mem_singleton.1 hs]
      exact hacross r.last (hrs.written r hr).mem.2 _ List.mem_cons_self

theorem standsIn {source : Text} {vs ws : List Token} {rs : List Reading} (h : TermsIn vs rs)
    (hall : Token.all source = vs ++ ws) {r : Reading} (hr : r ∈ rs) : r.StandsIn source := by
  have hslice : ∀ t ∈ vs, source.slice? t.span = some t.lexeme := by
    intro t ht
    exact Token.slice?_of_mem_all (hall ▸ List.mem_append_left ws ht)
  rcases h.written r hr with ⟨content, hmem, hk, rfl⟩ | ⟨before, name, colon, content, after, rfl, hn, hk, hs, rfl⟩
  · exact ⟨hk, rfl, .inl ⟨rfl, rfl, hslice content hmem⟩⟩
  · have hall : Token.all source = before ++ name :: (colon :: content :: after ++ ws) := by simpa using hall
    obtain ⟨colon', rest, hrest, -, hlexeme, hstart⟩ := Token.colon_of_name hall hn
    obtain ⟨rfl, -⟩ := List.cons.inj hrest
    have hname : source.slice? ⟨name.span.start, colon.span.start⟩ = some name.lexeme := by
      rw [hstart]
      exact hslice name (by simp)
    have hcolon : source.slice? ⟨colon.span.start, content.span.start⟩ = some [':'] := by
      rw [hs, ← hlexeme]
      exact hslice colon (by simp)
    have hcontent : source.slice? ⟨content.span.start, content.span.stop⟩ = some content.lexeme :=
      hslice content (by simp)
    have hwhole := Text.slice?_trans (Text.slice?_trans hname hcolon) hcontent
    rw [List.append_assoc] at hwhole
    exact ⟨hk, rfl, .inr ⟨hn, hwhole⟩⟩

end TermsIn

end Filter

end Triage
