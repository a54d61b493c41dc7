import Triage.Proofs.Filter.Grammar
import Triage.Proofs.Filter.Run

/-!
What the machine has read of any tokens is a beginning of a derivation: each open parenthesis stands where a term may
come, and what stands between it and the next is part of a disjunction. A draft with nothing missing is a derivation.
-/

namespace Triage.Filter

open Grammar

namespace Level

inductive Finished : Level → List Token → Prop
  | only {ts f n} : Derives .conjunction ts f n → Finished { conjuncts := some f } ts
  | alternative {ts us f g t m n} : Derives .disjunction ts f m → t.kind = .disjunction →
      Derives .conjunction us g n → Finished { alternatives := some f, conjuncts := some g } (ts ++ t :: us)

inductive Open : Level → List Token → Prop
  | start : Open {} []
  | alternative {ts f t n} : Derives .disjunction ts f n → t.kind = .disjunction →
      Open { alternatives := some f } (ts ++ [t])
  | adjacent {l ts} : Finished l ts → Open l ts
  | and {l ts t} : Finished l ts → t.kind = .conjunction → Open l (ts ++ [t])
  | not {l ts t} : Open l ts → t.kind = .negation → Open { l with negations := l.negations + 1 } (ts ++ [t])

theorem Finished.result? {l : Level} {ts : List Token} (h : Finished l ts) :
    ∃ f n, l.result? = some f ∧ Derives .disjunction ts f n := by
  cases h with
  | only h => exact ⟨_, _, rfl, .conjunction h⟩
  | alternative hl ht hr => exact ⟨_, _, rfl, .or hl ht hr⟩

theorem Finished.adjacent {l : Level} {ts us : List Token} {g : Filter} {n : Nat} (h : Finished l ts)
    (hg : Derives .unary us g n) : Finished (l.place g) (ts ++ us) := by
  cases h with
  | only h => exact .only (.adjacent h hg)
  | alternative hl ht hr =>
      rw [List.append_assoc]
      exact .alternative hl ht (.adjacent hr hg)

theorem Finished.and {l : Level} {ts us : List Token} {t : Token} {g : Filter} {n : Nat} (h : Finished l ts)
    (ht : t.kind = .conjunction) (hg : Derives .unary us g n) : Finished (l.place g) (ts ++ t :: us) := by
  cases h with
  | only h => exact .only (.and h ht hg)
  | alternative hl ht' hr =>
      rw [List.append_assoc]
      exact .alternative hl ht' (.and hr ht hg)

theorem Open.place {l : Level} {ts us : List Token} {g : Filter} {n : Nat} (h : Open l ts)
    (hg : Derives .unary us g n) : Finished (l.place g) (ts ++ us) := by
  induction h generalizing us g n with
  | start => exact .only (.unary hg)
  | alternative h ht =>
      rw [List.append_assoc]
      exact .alternative h ht (.unary hg)
  | adjacent h => exact h.adjacent hg
  | and h ht =>
      rw [List.append_assoc]
      exact h.and ht hg
  | not _ ht ih =>
      rw [List.append_assoc, place_neg]
      exact ih (.not ht hg)

end Level

namespace Draft

inductive Enclosed : List Level → List Token → Prop
  | nil : Enclosed [] []
  | cons {ls l ts us t} : Enclosed ls ts → l.Open us → t.kind = .leftParen → Enclosed (l :: ls) (ts ++ (us ++ [t]))

def Pending (l : Level) (ts : List Token) : Need → Prop
  | .term => l.Open ts
  | .nothing => l.Finished ts
  | .colon name => ∃ us, l.Open us ∧ ts = us ++ [name] ∧ name.kind = .name
  | .content name colon => ∃ us, l.Open us ∧ ts = us ++ [name, colon] ∧ name.kind = .name ∧ colon.kind = .colon

def Reads (d : Draft) (ts : List Token) : Prop :=
  ∃ us vs, ts = us ++ vs ∧ Enclosed d.outer us ∧ Pending d.level vs d.need

theorem reads_beginTerm? {d e : Draft} {us vs : List Token} {t : Token} (ho : Enclosed d.outer us)
    (hl : d.level.Open vs) (h : d.beginTerm? t = some e) : e.Reads (us ++ (vs ++ [t])) := by
  rw [beginTerm?] at h
  split at h
  · next hk =>
      cases h
      exact ⟨_, [], by simp, .cons ho hl hk, .start⟩
  · next hk =>
      cases h
      exact ⟨us, _, rfl, ho, .not hl hk⟩
  · next hk =>
      cases h
      exact ⟨us, _, rfl, ho, vs, hl, rfl, hk⟩
  · next q hk =>
      cases h
      exact ⟨us, _, rfl, ho, hl.place (.primary (.keyword (by rw [hk]; rfl)))⟩
  · cases h

theorem reads_followTerm? {d e : Draft} {us vs : List Token} {t : Token} (ho : Enclosed d.outer us)
    (hl : d.level.Finished vs) (h : d.followTerm? t = some e) : e.Reads (us ++ (vs ++ [t])) := by
  obtain ⟨f, n, hf, hd⟩ := hl.result?
  rw [followTerm?] at h
  split at h
  · next hk =>
      cases h
      exact ⟨us, _, rfl, ho, .and hl hk⟩
  · next hk =>
      cases h
      refine ⟨us, _, rfl, ho, ?_⟩
      show d.level.alternative.Open _
      rw [Level.alternative, hf]
      exact .alternative hd hk
  · next hk =>
      simp only [close?, hf] at h
      split at h
      · next l ls g houter hg =>
          cases h
          cases hg
          rw [houter] at ho
          cases ho with
          | @cons _ _ ts ws o hls hws hopen =>
              refine ⟨ts, ws ++ (o :: (vs ++ [t])), by simp, hls, ?_⟩
              exact hws.place (.primary (.group hopen hd hk))
      · cases h
  · cases h

theorem reads_step? {d e : Draft} {ts : List Token} {t : Token} (hd : d.Reads ts) (h : d.step? t = some e) :
    e.Reads (ts ++ [t]) := by
  obtain ⟨us, vs, rfl, ho, hp⟩ := hd
  rw [List.append_assoc]
  rw [step?] at h
  split at h
  · next hn =>
      rw [hn] at hp
      exact reads_beginTerm? ho hp h
  · next hn =>
      rw [hn] at hp
      rcases Option.or_eq_some_iff.1 h with h | ⟨-, h⟩
      · exact reads_beginTerm? ho (.adjacent hp) h
      · exact reads_followTerm? ho hp h
  · next name hn =>
      rw [hn] at hp
      obtain ⟨ws, hl, rfl, hk⟩ := hp
      split at h
      · next ht =>
          cases h
          exact ⟨us, _, rfl, ho, ws, hl, by simp, hk, ht⟩
      · cases h
  · next name colon hn =>
      rw [hn] at hp
      obtain ⟨ws, hl, rfl, hk, hc⟩ := hp
      split at h
      · next ht =>
          cases h
          refine ⟨us, ws ++ [name, colon, t], by simp, ho, hl.place (.primary (.qualifier hk hc ht.1 ht.2))⟩
      · cases h

theorem reads_run? {d e : Draft} {ts us : List Token} (hd : d.Reads ts) (h : d.run? us = some e) :
    e.Reads (ts ++ us) := by
  -- On the tokens to come, while those that the draft stands for grow at their end.
  induction us generalizing d ts with
  | nil =>
      obtain rfl : d = e := by simpa [run?] using h
      simpa using hd
  | cons t us ih =>
      obtain ⟨d', ht, hr⟩ := Option.bind_eq_some_iff.1 h
      simpa using ih (reads_step? hd ht) hr

theorem reads_of_run? {e : Draft} {ts : List Token} (h : run? {} ts = some e) : e.Reads ts := by
  have hstart : Reads {} [] := ⟨[], [], rfl, .nil, Level.Open.start⟩
  exact reads_run? hstart h

theorem derives_of_run? {e : Draft} {ts : List Token} {f : Filter} (h : run? {} ts = some e)
    (hf : e.complete? = some f) : ∃ n, Derives .disjunction ts f n := by
  obtain ⟨us, vs, rfl, ho, hp⟩ := reads_of_run? h
  rw [complete?] at hf
  split at hf
  · next hn =>
      rw [hn.2] at ho
      rw [hn.1] at hp
      cases ho
      obtain ⟨g, n, hg, hder⟩ := hp.result?
      obtain rfl : g = f := by simpa [hg] using hf
      exact ⟨n, hder⟩
  · cases hf

end Draft

end Triage.Filter
