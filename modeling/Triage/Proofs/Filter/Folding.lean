import Triage.Filter
import Triage.Proofs.Qualifier.Folding

namespace Triage

open Text

namespace Filter

def lowerAscii : Filter → Filter
  | .everything => .everything
  | .term name content => .term name.lowerAscii content.lowerAscii
  | .conj l r => .conj l.lowerAscii r.lowerAscii
  | .disj l r => .disj l.lowerAscii r.lowerAscii
  | .neg f => .neg f.lowerAscii

def lowerTerm (term : Text × Text) : Text × Text := (term.1.lowerAscii, term.2.lowerAscii)

theorem terms_lowerAscii (f : Filter) : f.lowerAscii.terms = f.terms.map lowerTerm := by
  induction f with
  | everything => rfl
  | term name content => rfl
  | conj l r ihl ihr => simp only [lowerAscii, terms, ihl, ihr, List.map_append]
  | disj l r ihl ihr => simp only [lowerAscii, terms, ihl, ihr, List.map_append]
  | neg f ih => exact ih

theorem topTerms_lowerAscii (f : Filter) : f.lowerAscii.topTerms = f.topTerms.map lowerTerm := by
  induction f with
  | conj l r ihl ihr => simp only [lowerAscii, topTerms, ihl, ihr, List.map_append]
  | _ => rfl

theorem satisfiedBy_lowerAscii (ctx : Context) (issue : Issue) (f : Filter) :
    f.lowerAscii.satisfiedBy ctx issue = f.satisfiedBy ctx issue := by
  induction f with
  | everything => rfl
  | term name content => simp only [lowerAscii, satisfiedBy, Qualifier.predicateOf_lowerAscii]
  | conj l r ihl ihr => simp only [lowerAscii, satisfiedBy, ihl, ihr]
  | disj l r ihl ihr => simp only [lowerAscii, satisfiedBy, ihl, ihr]
  | neg f ih => simp only [lowerAscii, satisfiedBy, ih]

theorem canApply_lowerAscii (f : Filter) : f.lowerAscii.canApply = f.canApply := by
  induction f with
  | everything => rfl
  | term name content =>
      have hcontent : Qualifier.canApply content.lowerAscii = Qualifier.canApply content :=
        funext (Qualifier.canApply_lowerAscii content)
      simp only [lowerAscii, canApply, Qualifier.ofName?_lowerAscii, hcontent]
  | conj l r ihl ihr => simp only [lowerAscii, canApply, ihl, ihr]
  | disj l r => rfl
  | neg f => rfl

theorem contentsOf_lowerTerm (q : Qualifier) (terms : List (Text × Text)) :
    contentsOf q (terms.map lowerTerm) = (contentsOf q terms).map Text.lowerAscii := by
  simp only [contentsOf, List.filter_map, List.map_map, Function.comp_def, lowerTerm, Qualifier.ofName?_lowerAscii]

theorem sortKeys?_lowerAscii (f : Filter) : f.lowerAscii.sortKeys? = f.sortKeys? := by
  have hkeys (content : Text) : (SortKey.readAll content.lowerAscii).toOption = (SortKey.readAll content).toOption := by
    rw [SortKey.readAll_lowerAscii]
    cases SortKey.readAll content <;> rfl
  simp only [sortKeys?, terms_lowerAscii, contentsOf_lowerTerm, List.findSome?_map, Function.comp_def, hkeys]

theorem limit?_lowerAscii (f : Filter) : f.lowerAscii.limit? = f.limit? := by
  rw [limit?, limit?, topTerms_lowerAscii, contentsOf_lowerTerm]
  cases contentsOf .count f.topTerms with
  | nil => rfl
  | cons content contents =>
      cases contents with
      | nil => simp only [List.map_cons, List.map_nil, readInteger?_lowerAscii]
      | cons other contents => rfl

theorem select_lowerAscii (ctx : Context) (f : Filter) : f.lowerAscii.select ctx = f.select ctx := by
  simp only [select, satisfiedBy_lowerAscii, sortKeys?_lowerAscii, limit?_lowerAscii]

end Filter

end Triage
