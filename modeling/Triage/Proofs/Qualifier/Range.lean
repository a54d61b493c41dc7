import Triage.Proofs.Comparison.Operand
import Triage.Proofs.Qualifier.Agreement
import Triage.Proofs.SortKey.Order

namespace Triage

namespace Comparison

variable {α : Type} [Ord α]

theorem holds_between [Std.OrientedOrd α] (low high x : α) :
    (between low high).holds x = ((ge low).holds x && (le high).holds x) := by
  have hswap : compare low x = (compare x low).swap := Std.OrientedOrd.eq_swap
  rw [holds, holds, holds, hswap, Ordering.isLE_swap]

theorem holds_lt (v x : α) : (lt v).holds x = !(ge v).holds x := by
  rw [holds, holds]
  cases compare x v <;> rfl

theorem holds_gt (v x : α) : (gt v).holds x = !(le v).holds x := by
  rw [holds, holds]
  cases compare x v <;> rfl

end Comparison

namespace Qualifier

def timestamp? : Qualifier → Option (Issue → Timestamp)
  | .created => some Issue.createdAt
  | .updated => some Issue.updatedAt
  | _ => none

theorem predicate_of_timestamp? {q : Qualifier} {stamp : Issue → Timestamp} (h : q.timestamp? = some stamp)
    (ctx : Context) (content : Text) :
    q.predicate ctx content =
      testing (DateCondition.read? content) fun c issue => c.holds ctx.now (stamp issue) := by
  cases q with
  | created | updated =>
      cases h
      rfl
  | _ => cases h

variable {α : Type} {ctx : Context} {q : Qualifier} {operand : Text → Option α}

def Compares (ctx : Context) (q : Qualifier) (operand : Text → Option α)
    (passes : Comparison α → Issue → Bool) : Prop :=
  ∀ content c, Comparison.read? operand content = some c → q.predicate ctx content = .test (passes c)

theorem compares_id (ctx : Context) : Compares ctx .id readInteger? idHolds := by
  intro content c h
  rw [predicate, h]
  rfl

theorem idHolds_between (l u : Int) (issue : Issue) :
    idHolds (.between l u) issue = (idHolds (.ge l) issue && idHolds (.le u) issue) := by
  rw [idHolds, idHolds, idHolds, Comparison.holds_between]
  cases Text.inWord (Int.ofNat issue.id.toNat) <;> rfl

theorem compares_date {stamp : Issue → Timestamp} (h : q.timestamp? = some stamp) :
    Compares ctx q Date.read? fun c issue => c.holds (stamp issue).date := by
  intro content c hc
  rw [predicate_of_timestamp? h, DateCondition.read?_of_dates hc]
  rfl

theorem compares_age {stamp : Issue → Timestamp} (h : q.timestamp? = some stamp) :
    Compares ctx q readInteger? fun c issue => c.holds (Timestamp.hoursBetween (stamp issue) ctx.now) := by
  intro content c hc
  rw [predicate_of_timestamp? h, DateCondition.read?_of_integers hc]
  rfl

structure RangeOfBounds (ctx : Context) (q : Qualifier) (low high : Text) : Prop where
  tested : ∀ content ∈ [low ++ "..".toList ++ high, ">=".toList ++ low, "<=".toList ++ high],
    (q.predicate ctx content).IsTest
  holds_iff : ∀ issue, (q.predicate ctx (low ++ "..".toList ++ high)).holds issue ↔
    (q.predicate ctx (">=".toList ++ low)).holds issue ∧ (q.predicate ctx ("<=".toList ++ high)).holds issue

structure Opposites (ctx : Context) (q : Qualifier) (t : Text) : Prop where
  lt_iff : ∀ issue, (q.predicate ctx ("<".toList ++ t)).holds issue ↔
    ¬ (q.predicate ctx (">=".toList ++ t)).holds issue
  gt_iff : ∀ issue, (q.predicate ctx (">".toList ++ t)).holds issue ↔
    ¬ (q.predicate ctx ("<=".toList ++ t)).holds issue

section

variable {passes : Comparison α → Issue → Bool} (h : Compares ctx q operand passes)
  (hop : Comparison.Operand operand)

include h hop

theorem Compares.rangeOfBounds
    (hpasses : ∀ l u issue, passes (.between l u) issue = (passes (.ge l) issue && passes (.le u) issue))
    {low high : Text} {l u : α} (hlow : operand low = some l) (hhigh : operand high = some u) :
    RangeOfBounds ctx q low high := by
  have hrange := h _ _ (Comparison.read?_range hop hlow hhigh)
  have hge := h _ _ (Comparison.read?_ge hop hlow)
  have hle := h _ _ (Comparison.read?_le hop hhigh)
  constructor
  · intro content hcontent
    simp only [List.mem_cons, List.not_mem_nil, or_false] at hcontent
    rcases hcontent with rfl | rfl | rfl
    · exact ⟨_, hrange⟩
    · exact ⟨_, hge⟩
    · exact ⟨_, hle⟩
  · intro issue
    rw [hrange, hge, hle, Predicate.holds, Predicate.holds, Predicate.holds, hpasses, Bool.and_eq_true]

theorem Compares.opposites (hlt : ∀ v issue, passes (.lt v) issue = !passes (.ge v) issue)
    (hgt : ∀ v issue, passes (.gt v) issue = !passes (.le v) issue) {t : Text} {v : α} (ht : operand t = some v) :
    Opposites ctx q t := by
  constructor
  · intro issue
    rw [h _ _ (Comparison.read?_lt hop ht), h _ _ (Comparison.read?_ge hop ht), Predicate.holds, Predicate.holds, hlt,
      Bool.not_eq_true', Bool.not_eq_true]
  · intro issue
    rw [h _ _ (Comparison.read?_gt hop ht), h _ _ (Comparison.read?_le hop ht), Predicate.holds, Predicate.holds, hgt,
      Bool.not_eq_true', Bool.not_eq_true]

end

def Bounds (q : Qualifier) (low high : Text) : Prop :=
  (q = .id ∨ q.timestamp?.isSome) ∧ (readInteger? low).isSome ∧ (readInteger? high).isSome ∨
    q.timestamp?.isSome ∧ (Date.read? low).isSome ∧ (Date.read? high).isSome

instance (q : Qualifier) (low high : Text) : Decidable (Bounds q low high) :=
  inferInstanceAs (Decidable (_ ∨ _))

theorem rangeOfBounds {low high : Text} (hbounds : Bounds q low high) (ctx : Context) :
    RangeOfBounds ctx q low high := by
  simp only [Bounds, Option.isSome_iff_exists] at hbounds
  rcases hbounds with ⟨rfl | ⟨stamp, hstamp⟩, ⟨l, hl⟩, u, hu⟩ | ⟨⟨stamp, hstamp⟩, ⟨l, hl⟩, u, hu⟩
  · exact (compares_id ctx).rangeOfBounds Comparison.operand_integer idHolds_between hl hu
  · exact (compares_age hstamp).rangeOfBounds Comparison.operand_integer
      (fun l u issue => Comparison.holds_between l u _) hl hu
  · exact (compares_date hstamp).rangeOfBounds Comparison.operand_date
      (fun l u issue => Comparison.holds_between l u _) hl hu

theorem opposites (hq : q.timestamp?.isSome) {t : Text} (ht : (Date.read? t).isSome ∨ (readInteger? t).isSome)
    (ctx : Context) : Opposites ctx q t := by
  obtain ⟨stamp, hstamp⟩ := Option.isSome_iff_exists.1 hq
  simp only [Option.isSome_iff_exists] at ht
  rcases ht with ⟨v, hv⟩ | ⟨v, hv⟩
  · exact (compares_date hstamp).opposites Comparison.operand_date (fun v issue => Comparison.holds_lt v _)
      (fun v issue => Comparison.holds_gt v _) hv
  · exact (compares_age hstamp).opposites Comparison.operand_integer (fun v issue => Comparison.holds_lt v _)
      (fun v issue => Comparison.holds_gt v _) hv

theorem comparisons_split (ctx : Context) :
    (∀ q low high, Bounds q low high → RangeOfBounds ctx q low high) ∧
      ∀ q t, (timestamp? q).isSome → (Date.read? t).isSome ∨ (readInteger? t).isSome → Opposites ctx q t :=
  ⟨fun _ _ _ h => rangeOfBounds h ctx, fun _ _ hq ht => opposites hq ht ctx⟩

def thisNoon : Context where
  now := ⟨⟨2024, 7, 14, by decide⟩, 43200, 0, by decide⟩

theorem comparisons_split_noon :
    Bounds .created " 2024-1- 05".toList "+02024-03-01 ".toList ∧
    RangeOfBounds thisNoon .created " 2024-1- 05".toList "+02024-03-01 ".toList ∧
    (timestamp? .updated).isSome ∧ (readInteger? " -3 ".toList).isSome ∧ Opposites thisNoon .updated " -3 ".toList := by
  have hbounds : Bounds .created " 2024-1- 05".toList "+02024-03-01 ".toList := by decide
  have hage : (readInteger? " -3 ".toList).isSome := by decide
  obtain ⟨hranges, hopposites⟩ := comparisons_split thisNoon
  exact ⟨hbounds, hranges _ _ _ hbounds, rfl, hage, hopposites _ _ rfl (.inr hage)⟩

end Qualifier

end Triage
