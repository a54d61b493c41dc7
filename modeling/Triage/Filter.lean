import Triage.Qualifier.Application
import Triage.Qualifier.Predicate
import Triage.SortKey

namespace Triage

inductive Filter where
  | everything
  | term (name content : Text)
  | conj (left right : Filter)
  | disj (left right : Filter)
  | neg (inner : Filter)
  deriving DecidableEq, Repr

structure Refusal where
  filter : Filter
  deriving DecidableEq, Repr

namespace Filter

def terms : Filter → List (Text × Text)
  | .everything => []
  | .term name content => [(name, content)]
  | .conj l r | .disj l r => l.terms ++ r.terms
  | .neg f => f.terms

/-- Those of the terms that every issue must satisfy: conjunctions alone join them to the root. -/
def topTerms : Filter → List (Text × Text)
  | .term name content => [(name, content)]
  | .conj l r => l.topTerms ++ r.topTerms
  | .everything | .disj _ _ | .neg _ => []

theorem topTerms_sublist (f : Filter) : f.topTerms.Sublist f.terms := by
  induction f with
  | conj l r ihl ihr => exact ihl.append ihr
  | _ => simp [topTerms, terms]

def satisfiedBy (ctx : Context) (issue : Issue) : Filter → Bool
  | .everything => true
  | .term name content => (Qualifier.predicateOf ctx name content).holds issue
  | .conj l r => l.satisfiedBy ctx issue && r.satisfiedBy ctx issue
  | .disj l r => l.satisfiedBy ctx issue || r.satisfiedBy ctx issue
  | .neg f => !f.satisfiedBy ctx issue

def canApply : Filter → Bool
  | .term name content => (Qualifier.ofName? name).any (Qualifier.canApply content)
  | .conj l r => l.canApply && r.canApply
  | .everything | .disj _ _ | .neg _ => false

def applyTerm (s : Snapshot) (name content : Text) (issue : Issue) : Issue :=
  match Qualifier.ofName? name with
  | some q => q.apply s content issue
  | none => issue

/-- The issue changed by one term after another, from left to right. Each filter and each part of it is asked first
whether it can be applied. -/
def apply (s : Snapshot) (issue : Issue) (f : Filter) : Except Refusal Issue :=
  if f.canApply then
    match f with
    | .term name content => .ok (applyTerm s name content issue)
    | .conj l r =>
      match l.apply s issue with
      | .ok changed => r.apply s changed
      | .error refusal => .error refusal
    | _ => .ok issue
  else .error ⟨f⟩

def contentsOf (q : Qualifier) (terms : List (Text × Text)) : List Text :=
  (terms.filter fun (name, _) => Qualifier.ofName? name == some q).map Prod.snd

/-- The keys of the first `sort` term that holds valid keys, wherever it stands. -/
def sortKeys? (f : Filter) : Option (List SortKey) :=
  (contentsOf .sort f.terms).findSome? fun content => (SortKey.readAll content).toOption

/-- The number in the only `count` term that every issue must satisfy, unless it is negative. -/
def limit? (f : Filter) : Option Nat :=
  match contentsOf .count f.topTerms with
  | [content] => (readInteger? content).bind Int.toNat?
  | _ => none

/-- The issues that satisfy the filter, sorted by its keys, ties in the order of the snapshot, and cut off at its
limit. -/
def select (ctx : Context) (f : Filter) : List Issue :=
  let satisfying := ctx.issues.filter fun issue => f.satisfiedBy ctx issue
  let sorted :=
    match f.sortKeys? with
    | some keys => satisfying.mergeSort fun a b => (SortKey.compareAll ctx.toSnapshot keys a b).isLE
    | none => satisfying
  match f.limit? with
  | some n => sorted.take n
  | none => sorted

end Filter

end Triage
