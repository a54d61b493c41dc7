import Triage.Proofs.Qualifier.Fulfilment
import Triage.Proofs.Qualifier.Range

/-!
Ages are compared in whole hours, and the part of an hour that is left out is never seen: a threshold of so many hours
is passed exactly when so much time has gone by. Only of a timestamp in the future is a part of an hour rounded towards
now, and there, too, an older timestamp passes whatever a younger one passes.
-/

namespace Triage

namespace Timestamp

open Calendar

def nanosPerHour : Int := 3600 * nanosPerSecond

theorem nanosPerHour_pos : 0 < nanosPerHour := by decide

variable {earlier later : Timestamp} {n : Int}

theorem le_hoursBetween_iff (hn : 1 ≤ n) :
    n ≤ hoursBetween earlier later ↔ n * nanosPerHour ≤ nanosBetween earlier later := by
  show n ≤ (nanosBetween earlier later).tdiv nanosPerHour ↔ _
  rcases Int.le_total 0 (nanosBetween earlier later) with hpast | hfuture
  · rw [Int.tdiv_eq_ediv_of_nonneg hpast, Int.le_ediv_iff_mul_le nanosPerHour_pos]
  · have hhours := Int.tdiv_le_tdiv nanosPerHour_pos hfuture
    rw [Int.zero_tdiv] at hhours
    have hthreshold : 0 < n * nanosPerHour := Int.mul_pos (by omega) nanosPerHour_pos
    omega

theorem hoursBetween_lt_iff (hn : 1 ≤ n) :
    hoursBetween earlier later < n ↔ nanosBetween earlier later < n * nanosPerHour := by
  rw [← Int.not_le, ← Int.not_le, le_hoursBetween_iff hn]

theorem hoursBetween_mono {other : Timestamp} (h : nanosBetween earlier later ≤ nanosBetween other later) :
    hoursBetween earlier later ≤ hoursBetween other later :=
  Int.tdiv_le_tdiv nanosPerHour_pos h

end Timestamp

namespace Qualifier

open Timestamp

def Passes (ctx : Context) (q : Qualifier) (mark : String) (t : Text) (issue : Issue) : Prop :=
  (q.predicate ctx (mark.toList ++ t)).holds issue

instance (ctx : Context) (q : Qualifier) (mark : String) (t : Text) (issue : Issue) :
    Decidable (Passes ctx q mark t issue) :=
  inferInstanceAs (Decidable (_ = true))

theorem passes_iff {q : Qualifier} {stamp : Issue → Timestamp} (hq : q.timestamp? = some stamp) {mark : String}
    {t : Text} {c : Comparison Int} (h : Comparison.read? readInteger? (mark.toList ++ t) = some c) (ctx : Context)
    (issue : Issue) : Passes ctx q mark t issue ↔ c.Admits (hoursBetween (stamp issue) ctx.now) := by
  rw [Passes, compares_age hq _ _ h]
  exact c.holds_iff_admits _

theorem ages_compared_exactly {q : Qualifier} {stamp : Issue → Timestamp} (hq : q.timestamp? = some stamp) {t : Text}
    {n : Int} (ht : readInteger? t = some n) (ctx : Context) :
    (1 ≤ n → ∀ issue,
      (Passes ctx q "<" t issue ↔ nanosBetween (stamp issue) ctx.now < n * nanosPerHour) ∧
      (Passes ctx q ">=" t issue ↔ n * nanosPerHour ≤ nanosBetween (stamp issue) ctx.now)) ∧
    (0 ≤ n → ∀ issue,
      (Passes ctx q ">" t issue ↔ (n + 1) * nanosPerHour ≤ nanosBetween (stamp issue) ctx.now) ∧
      (Passes ctx q "<=" t issue ↔ nanosBetween (stamp issue) ctx.now < (n + 1) * nanosPerHour)) ∧
    ∀ younger older, nanosBetween (stamp younger) ctx.now ≤ nanosBetween (stamp older) ctx.now →
      (Passes ctx q ">" t younger → Passes ctx q ">" t older) ∧
      (Passes ctx q ">=" t younger → Passes ctx q ">=" t older) := by
  have hlt := passes_iff hq (Comparison.read?_lt Comparison.operand_integer ht) ctx
  have hle := passes_iff hq (Comparison.read?_le Comparison.operand_integer ht) ctx
  have hgt := passes_iff hq (Comparison.read?_gt Comparison.operand_integer ht) ctx
  have hge := passes_iff hq (Comparison.read?_ge Comparison.operand_integer ht) ctx
  simp only [Comparison.Admits] at hlt hle hgt hge
  refine ⟨fun hn issue => ?_, fun hn issue => ?_, fun younger older h => ?_⟩
  · exact ⟨(hlt issue).trans (hoursBetween_lt_iff hn), (hge issue).trans (le_hoursBetween_iff hn)⟩
  · -- More than n whole hours are n + 1 at least, and that threshold is positive.
    have hnext : 1 ≤ n + 1 := by omega
    rw [hgt, hle, ← Int.add_one_le_iff, le_hoursBetween_iff hnext, ← hoursBetween_lt_iff hnext, Int.lt_add_one_iff]
    exact ⟨Iff.rfl, Iff.rfl⟩
  · have hhours := hoursBetween_mono h
    rw [hgt, hgt, hge, hge]
    exact ⟨fun hyounger => Int.lt_of_lt_of_le hyounger hhours, fun hyounger => Int.le_trans hyounger hhours⟩

/-- An issue of a billionth of a second less than two hours before noon. -/
def nearlyTwoHours : Issue := .blank ⟨thisNoon.now.date, 36000, 1, by decide⟩ true

/-- An issue of a billionth of a second less than an hour after noon. -/
def nearlyNextHour : Issue := .blank ⟨thisNoon.now.date, 46799, 999999999, by decide⟩ true

theorem ages_compared_exactly_noon :
    timestamp? .updated = some Issue.updatedAt ∧ readInteger? " +2".toList = some 2 ∧
    readInteger? "-1".toList = some (-1) ∧
    Passes thisNoon .updated "<" " +2".toList nearlyTwoHours ∧
    ¬ Passes thisNoon .updated ">=" " +2".toList nearlyTwoHours ∧
    ¬ Passes thisNoon .updated ">" " +2".toList nearlyTwoHours ∧
    Passes thisNoon .updated "<=" " +2".toList nearlyTwoHours ∧
    Passes thisNoon .updated ">" "-1".toList nearlyNextHour ∧
    nanosBetween nearlyNextHour.updatedAt thisNoon.now ≤ nanosBetween nearlyTwoHours.updatedAt thisNoon.now ∧
    Passes thisNoon .updated ">" "-1".toList nearlyTwoHours := by
  have hupdated : timestamp? .updated = some Issue.updatedAt := rfl
  have htwo : readInteger? " +2".toList = some 2 := by decide
  have hback : readInteger? "-1".toList = some (-1) := by decide
  have hfuture : Passes thisNoon .updated ">" "-1".toList nearlyNextHour := by decide
  have hages : nanosBetween nearlyNextHour.updatedAt thisNoon.now ≤
      nanosBetween nearlyTwoHours.updatedAt thisNoon.now := by decide
  obtain ⟨hbelow, habove, -⟩ := ages_compared_exactly hupdated htwo thisNoon
  obtain ⟨-, -, holder⟩ := ages_compared_exactly hupdated hback thisNoon
  obtain ⟨hlt, hge⟩ := hbelow (by decide) nearlyTwoHours
  obtain ⟨hgt, hle⟩ := habove (by decide) nearlyTwoHours
  have holder' := (holder nearlyNextHour nearlyTwoHours hages).1 hfuture
  refine ⟨hupdated, htwo, hback, hlt.2 ?_, mt hge.1 ?_, mt hgt.1 ?_, hle.2 ?_, hfuture, hages, holder'⟩
  all_goals decide

end Qualifier

end Triage
