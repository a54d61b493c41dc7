import Triage.Filter
import Triage.Proofs.Comparison.Operand
import Triage.Proofs.Text.Numeral

/-!
Comparisons of identifiers. An identifier is compared exactly as long as it fits in a signed word of 64 bits; one that is
greater passes no comparison, so that a comparison and its opposite split only the issues whose identifiers fit.
-/

namespace Triage

def Issue.Comparable (issue : Issue) : Prop := issue.id.toNat < 2 ^ 63

instance (issue : Issue) : Decidable issue.Comparable :=
  inferInstanceAs (Decidable (_ < _))

theorem Issue.inWord_id (issue : Issue) : Text.inWord (Int.ofNat issue.id.toNat) ↔ issue.Comparable := by
  rw [Text.inWord_ofNat, decide_eq_true_iff, Comparable]

theorem Issue.filter_comparable {satisfied : Issue → Bool} (admits : Issue → Bool)
    (h : ∀ issue, satisfied issue ↔ issue.Comparable ∧ admits issue) (issues : List Issue) :
    issues.filter satisfied = (issues.filter fun issue => issue.Comparable).filter admits := by
  rw [List.filter_filter]
  refine List.filter_congr fun issue _ => ?_
  rw [Bool.eq_iff_iff, h issue, Bool.and_eq_true, decide_eq_true_iff]
  exact and_comm

namespace Filter

theorem satisfiedBy_id_iff {name content : Text} {c : Comparison Int} (hname : Qualifier.ofName? name = some .id)
    (hc : Comparison.read? readInteger? content = some c) (ctx : Context) (issue : Issue) :
    (term name content).satisfiedBy ctx issue ↔ issue.Comparable ∧ c.Admits issue.id.toNat := by
  have hpredicate : Qualifier.predicateOf ctx name content = .test (Qualifier.idHolds c) := by
    simp [Qualifier.predicateOf, hname, Qualifier.predicate, hc, Qualifier.testing]
  rw [satisfiedBy, hpredicate, Predicate.holds, Qualifier.idHolds, Bool.and_eq_true, issue.inWord_id,
    c.holds_iff_admits]
  rfl

section

variable {name t : Text} {n : Int}

theorem satisfiedBy_atMost_iff (hname : Qualifier.ofName? name = some .id) (ht : readInteger? t = some n)
    (ctx : Context) (issue : Issue) :
    (term name ("<=".toList ++ t)).satisfiedBy ctx issue ↔ issue.Comparable ∧ issue.id.toNat ≤ n :=
  satisfiedBy_id_iff hname (Comparison.read?_le Comparison.operand_integer ht) ctx issue

theorem satisfiedBy_above_iff (hname : Qualifier.ofName? name = some .id) (ht : readInteger? t = some n)
    (ctx : Context) (issue : Issue) :
    (term name (">".toList ++ t)).satisfiedBy ctx issue ↔ issue.Comparable ∧ n < issue.id.toNat :=
  satisfiedBy_id_iff hname (Comparison.read?_gt Comparison.operand_integer ht) ctx issue

theorem filter_opposites_perm (hname : Qualifier.ofName? name = some .id) (ht : readInteger? t = some n) (ctx : Context)
    (issues : List Issue) :
    List.Perm
      (issues.filter (fun issue => (term name ("<=".toList ++ t)).satisfiedBy ctx issue) ++
        issues.filter (fun issue => (term name (">".toList ++ t)).satisfiedBy ctx issue))
      (issues.filter fun issue => issue.Comparable) := by
  let atMost (issue : Issue) : Bool := issue.id.toNat ≤ n
  have hbelow := Issue.filter_comparable atMost
    (fun issue => (satisfiedBy_atMost_iff hname ht ctx issue).trans (by simp [atMost])) issues
  have habove := Issue.filter_comparable (fun issue => !atMost issue)
    (fun issue => (satisfiedBy_above_iff hname ht ctx issue).trans (by simp [atMost])) issues
  rw [hbelow, habove]
  exact List.filter_append_perm atMost _

end

theorem id_compared_within_word {name : Text} (hname : Qualifier.ofName? name = some .id) (ctx : Context) :
    (∀ content c, Comparison.read? readInteger? content = some c → ∀ issue,
      (term name content).satisfiedBy ctx issue ↔ issue.Comparable ∧ c.Admits issue.id.toNat) ∧
    (∀ t n, readInteger? t = some n → ∀ issues : List Issue,
      List.Perm
        (issues.filter (fun issue => (term name ("<=".toList ++ t)).satisfiedBy ctx issue) ++
          issues.filter (fun issue => (term name (">".toList ++ t)).satisfiedBy ctx issue))
        (issues.filter fun issue => issue.Comparable)) :=
  ⟨fun _ _ hc issue => satisfiedBy_id_iff hname hc ctx issue,
    fun _ _ ht issues => filter_opposites_perm hname ht ctx issues⟩

def newYear : Timestamp := .midnight ⟨2023, 1, 1, by decide⟩

def farIssue : Issue where
  id := 9223372036854775808
  title := "Far".toList
  author := "ann".toList
  createdAt := newYear
  updatedAt := newYear

def lastIssue : Issue := { farIssue with id := 9223372036854775807 }

def edgeOfWord : Context where
  issues := [farIssue, lastIssue]
  now := newYear

theorem id_compared_within_word_edge :
    Qualifier.ofName? "ID".toList = some .id ∧
    Comparison.read? readInteger? " 7 .. +9223372036854775807".toList = some (.between 7 9223372036854775807) ∧
    ((term "ID".toList " 7 .. +9223372036854775807".toList).satisfiedBy edgeOfWord lastIssue ↔
      lastIssue.Comparable ∧ Comparison.Admits (.between 7 9223372036854775807) lastIssue.id.toNat) := by
  have hname : Qualifier.ofName? "ID".toList = some .id := by decide
  have hread : Comparison.read? readInteger? " 7 .. +9223372036854775807".toList =
      some (.between 7 9223372036854775807) := by decide
  exact ⟨hname, hread, (id_compared_within_word hname edgeOfWord).1 _ _ hread lastIssue⟩

theorem far_issue_above_nothing :
    ¬ ∀ (ctx : Context) (content : Text) (c : Comparison Int), Comparison.read? readInteger? content = some c →
      ∀ issue : Issue, (term "id".toList content).satisfiedBy ctx issue ↔ c.Admits issue.id.toNat := by
  intro h
  have hread : Comparison.read? readInteger? ">5".toList = some (.gt 5) := by decide
  have hadmits : Comparison.Admits (.gt 5) farIssue.id.toNat := by
    show (5 : Int) < 9223372036854775808
    decide
  have hsatisfied := (h edgeOfWord ">5".toList (.gt 5) hread farIssue).2 hadmits
  exact absurd hsatisfied (by decide)

end Filter

end Triage
