import Triage.Proofs.Qualifier.Agreement
import Triage.Proofs.Text.Folding
import Triage.Proofs.Text.Numeral

namespace Triage

open Text

theorem Text.dropPrefix?_append (start rest : Text) : dropPrefix? start (start ++ rest) = some rest :=
  dropPrefix?_eq_some_iff.2 rfl

namespace Milestone.Reference

theorem read_current (tail : Text) : read ("current".toList ++ tail) = ofTail tail.lowerAscii := by
  have hword : lowerAscii "current".toList = "current".toList := by decide
  rw [read, lowerAscii_append, hword, words, List.findSome?_cons, dropPrefix?_append]

theorem places?_eq {digits : Text} {n : Nat} (h : natural? digits = some n) :
    places? digits = if n < 2 ^ 63 then some (Int.ofNat n) else none := by
  rw [places?, h, Option.map_some, Option.filter_some, inWord_ofNat]
  simp only [decide_eq_true_eq]

inductive Directed (n : Nat) : Char → Int → Prop
  | forward : Directed n '+' n
  | back : Directed n '-' (-n)

theorem ofTail_directed {sign : Char} {places : Int} {n : Nat} (h : Directed n sign places) {digits : Text}
    (hn : natural? digits = some n) :
    ofTail (sign :: digits) = if n < 2 ^ 63 then .offset places else .malformed := by
  have hplaces := places?_eq hn
  by_cases hword : n < 2 ^ 63
  · rw [if_pos hword] at hplaces ⊢
    cases h with
    | forward | back => rw [ofTail, hplaces]; rfl
  · rw [if_neg hword] at hplaces ⊢
    cases h with
    | forward | back => rw [ofTail, hplaces]

theorem read_directed {sign : Char} {places : Int} {n : Nat} (h : Directed n sign places) :
    read ("current".toList ++ sign :: ofNat n) = if n < 2 ^ 63 then .offset places else .malformed := by
  have hsign : sign.toLower = sign := by
    cases h with
    | forward | back => decide
  rw [read_current, lowerAscii_cons, hsign, lowerAscii_of_digits (all_isDigit_ofNat n),
    ofTail_directed h (natural?_ofNat n)]

end Milestone.Reference

open Milestone

theorem Snapshot.StandsAt.unique {s : Snapshot} {places : Int} {m m' : Milestone} (h : s.StandsAt places m)
    (h' : s.StandsAt places m') : m = m' := by
  obtain ⟨current, index, hcurrent, -, -, hindex, hm⟩ := h
  obtain ⟨current', index', hcurrent', -, -, hindex', hm'⟩ := h'
  obtain rfl : current = current' := Option.some.inj (hcurrent.symm.trans hcurrent')
  obtain rfl : index = index' := Int.ofNat.inj (hindex.trans hindex'.symm)
  exact Option.some.inj (hm.symm.trans hm')

theorem Qualifier.milestonePredicate_of_standsAt {s : Snapshot} {content : Text} {places : Int} {m : Milestone}
    (hread : Reference.read content = .offset places) (h : s.StandsAt places m) :
    milestonePredicate s content = .test fun issue => issue.milestone == some m.id := by
  rw [milestonePredicate, Milestone.resolve, hread]
  rcases resolve_offset s places with ⟨index, m', hresolve, hm', hstands⟩ | ⟨-, hnone⟩
  · obtain rfl := hstands.unique h
    rw [hresolve]
    simp only [hm']
  · exact absurd h (hnone m)

end Triage
