import Triage.Filter.Draft

/-!
A run of the machine that reads filters, with the depth limit left aside: the draft that it leads to, and the greatest
depth on the way. Reading within the limit is a run that never goes deeper.
-/

namespace Triage.Filter

namespace Level

theorem negate_neg (n : Nat) (f : Filter) : negate n (.neg f) = .neg (negate n f) := by
  induction n with
  | zero => rfl
  | succ n ih => simp [negate, ih]

theorem place_neg (l : Level) (f : Filter) :
    { l with negations := l.negations + 1 }.place f = l.place (.neg f) := by
  simp [place, negate, negate_neg]

theorem place_of_conjuncts {l : Level} {f : Filter} (hc : l.conjuncts = some f) (hz : l.negations = 0) (g : Filter) :
    l.place g = { l with conjuncts := some (.conj f g) } := by
  simp [place, hc, hz, negate]

end Level

namespace Draft

def run? : Draft → List Token → Option Draft
  | d, [] => some d
  | d, t :: ts => (d.step? t).bind fun e => e.run? ts

def peak : Draft → List Token → Nat
  | _, [] => 0
  | d, t :: ts => max d.depth (((d.step? t).map fun e => e.peak ts).getD 0)

theorem depth_start : ({} : Draft).depth = 0 := rfl

theorem run?_cons {d e : Draft} {t : Token} (h : d.step? t = some e) (ts : List Token) :
    d.run? (t :: ts) = e.run? ts := by
  simp [run?, h]

theorem peak_cons {d e : Draft} {t : Token} (h : d.step? t = some e) (ts : List Token) :
    d.peak (t :: ts) = max d.depth (e.peak ts) := by
  simp [peak, h]

theorem run?_append (d : Draft) (ts us : List Token) : d.run? (ts ++ us) = (d.run? ts).bind fun e => e.run? us := by
  induction ts generalizing d with
  | nil => rfl
  | cons t ts ih =>
      simp only [List.cons_append, run?]
      cases d.step? t with
      | none => rfl
      | some e => exact ih e

theorem peak_append {d e : Draft} {ts : List Token} (h : d.run? ts = some e) (us : List Token) :
    d.peak (ts ++ us) = max (d.peak ts) (e.peak us) := by
  induction ts generalizing d with
  | nil =>
      obtain rfl : d = e := by simpa [run?] using h
      simp [peak]
  | cons t ts ih =>
      obtain ⟨d', ht, hts⟩ := Option.bind_eq_some_iff.1 h
      rw [List.cons_append, peak_cons ht, peak_cons ht, ih hts, Nat.max_assoc]

theorem read_of_run? {d e : Draft} {ts : List Token} {f : Filter} (h : d.run? ts = some e)
    (hp : d.peak ts ≤ maxDepth) (hf : e.complete? = some f) (finish : Token) :
    d.read finish ts = ⟨e.readings, .ok f⟩ := by
  induction ts generalizing d with
  | nil =>
      obtain rfl : d = e := by simpa [run?] using h
      simp [read, hf]
  | cons t ts ih =>
      obtain ⟨d', ht, hts⟩ := Option.bind_eq_some_iff.1 h
      rw [peak_cons ht, Nat.max_le] at hp
      have hn : d.next? t = some d' := by rw [next?, if_neg (Nat.not_lt.2 hp.1), ht]
      simp only [read, hn]
      exact ih hts hp.2

theorem run?_of_read {d : Draft} {finish : Token} {ts : List Token} {f : Filter}
    (h : (d.read finish ts).result = .ok f) :
    ∃ e, d.run? ts = some e ∧ d.peak ts ≤ maxDepth ∧ e.complete? = some f := by
  induction ts generalizing d with
  | nil =>
      refine ⟨d, rfl, Nat.zero_le _, ?_⟩
      rw [read] at h
      split at h
      · next g hg => simpa [hg] using h
      · cases h
  | cons t ts ih =>
      rw [read] at h
      split at h
      · next d' hn =>
          obtain ⟨e, hr, hp, hf⟩ := ih h
          rw [next?] at hn
          split at hn
          · cases hn
          · next hd =>
              refine ⟨e, by rw [run?_cons hn, hr], ?_, hf⟩
              rw [peak_cons hn]
              exact Nat.max_le.2 ⟨Nat.le_of_not_lt hd, hp⟩
      · cases h

end Draft

end Triage.Filter
