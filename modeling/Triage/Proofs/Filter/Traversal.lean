import Triage.Filter

namespace Triage.Filter

def size : Filter → Nat
  | .everything | .term _ _ => 1
  | .conj l r | .disj l r => l.size + r.size + 1
  | .neg f => f.size + 1

theorem size_pos (f : Filter) : 0 < f.size := by
  cases f <;> simp [size]

def weight : List Filter → Nat
  | [] => 0
  | f :: rest => f.size + weight rest

theorem weight_lt_cons (f : Filter) (rest : List Filter) : weight rest < weight (f :: rest) :=
  Nat.lt_add_of_pos_left f.size_pos

theorem weight_lt_conj (l r : Filter) (rest : List Filter) : weight (l :: r :: rest) < weight (.conj l r :: rest) := by
  simp only [weight, size]
  omega

theorem weight_lt_neg (f : Filter) (rest : List Filter) : weight (f :: rest) < weight (.neg f :: rest) := by
  simp only [weight, size]
  omega

def collect (descend : Bool) : (stack : List Filter) → List (Text × Text)
  | [] => []
  | .everything :: rest => collect descend rest
  | .term name content :: rest => (name, content) :: collect descend rest
  | .conj l r :: rest => collect descend (l :: r :: rest)
  | .disj l r :: rest => if descend then collect descend (l :: r :: rest) else collect descend rest
  | .neg f :: rest => if descend then collect descend (f :: rest) else collect descend rest
termination_by stack => weight stack
decreasing_by
  · exact weight_lt_cons _ rest
  · exact weight_lt_cons _ rest
  · exact weight_lt_conj l r rest
  · exact weight_lt_conj l r rest
  · exact weight_lt_cons _ rest
  · exact weight_lt_neg f rest
  · exact weight_lt_cons _ rest

theorem collect_true (stack : List Filter) : collect true stack = stack.flatMap terms := by
  fun_induction collect true stack with
  | case1 => rfl
  | case2 rest ih => exact ih
  | case3 name content rest ih => rw [ih, List.flatMap_cons, terms, List.singleton_append]
  | case4 l r rest ih => simp [ih, terms]
  | case5 l r rest _ ih => simp [ih, terms]
  | case6 l r rest h => exact absurd rfl h
  | case7 f rest _ ih => simp [ih, terms]
  | case8 f rest h => exact absurd rfl h

theorem collect_false (stack : List Filter) : collect false stack = stack.flatMap topTerms := by
  fun_induction collect false stack with
  | case1 => rfl
  | case2 rest ih => exact ih
  | case3 name content rest ih => rw [ih, List.flatMap_cons, topTerms, List.singleton_append]
  | case4 l r rest ih => simp [ih, topTerms]
  | case5 l r rest h => cases h
  | case6 l r rest _ ih => exact ih
  | case7 f rest h => cases h
  | case8 f rest _ ih => exact ih

theorem collect_true_singleton (f : Filter) : collect true [f] = f.terms := by
  rw [collect_true, List.flatMap_singleton]

theorem collect_false_singleton (f : Filter) : collect false [f] = f.topTerms := by
  rw [collect_false, List.flatMap_singleton]

structure Visit where
  stack : List Filter
  found : List (Text × Text)

namespace Visit

def start (f : Filter) : Visit := ⟨[f], []⟩

def next? (descend : Bool) (v : Visit) : Option Visit :=
  match v.stack with
  | [] => none
  | .everything :: rest => some { v with stack := rest }
  | .term name content :: rest => some ⟨rest, v.found ++ [(name, content)]⟩
  | .conj l r :: rest => some { v with stack := l :: r :: rest }
  | .disj l r :: rest => some { v with stack := if descend then l :: r :: rest else rest }
  | .neg f :: rest => some { v with stack := if descend then f :: rest else rest }

inductive Ends (descend : Bool) : Visit → Nat → List (Text × Text) → Prop
  | done {v} : v.next? descend = none → Ends descend v 0 v.found
  | round {v w n found} : v.next? descend = some w → Ends descend w n found → Ends descend v (n + 1) found

def Finds (descend : Bool) (f : Filter) (found : List (Text × Text)) : Prop :=
  (∃ n ≤ f.size, (start f).Ends descend n found) ∧
    ∀ n other, (start f).Ends descend n other → other = found

theorem stack_of_next?_none {descend : Bool} {v : Visit} (h : v.next? descend = none) : v.stack = [] := by
  obtain ⟨stack, found⟩ := v
  cases stack with
  | nil => rfl
  | cons f rest => cases f <;> cases h

theorem collect_next? {descend : Bool} {v w : Visit} (h : v.next? descend = some w) :
    w.found ++ collect descend w.stack = v.found ++ collect descend v.stack := by
  obtain ⟨stack, found⟩ := v
  cases stack with
  | nil => cases h
  | cons f rest =>
      cases f with
      | everything | conj l r =>
          cases h
          simp only [collect]
      | term name content =>
          cases h
          simp only [collect, List.append_assoc, List.singleton_append]
      | disj l r | neg f =>
          cases h
          cases descend <;> simp [collect]

theorem weight_next? {descend : Bool} {v w : Visit} (h : v.next? descend = some w) : weight w.stack < weight v.stack := by
  obtain ⟨stack, found⟩ := v
  cases stack with
  | nil => cases h
  | cons f rest =>
      cases f with
      | everything | term name content =>
          cases h
          exact weight_lt_cons _ rest
      | conj l r =>
          cases h
          exact weight_lt_conj l r rest
      | disj l r =>
          cases h
          cases descend with
          | true => exact weight_lt_conj l r rest
          | false => exact weight_lt_cons _ rest
      | neg f =>
          cases h
          cases descend with
          | true => exact weight_lt_neg f rest
          | false => exact weight_lt_cons _ rest

theorem Ends.found_eq {descend : Bool} {v : Visit} {n : Nat} {found : List (Text × Text)} (h : v.Ends descend n found) :
    found = v.found ++ collect descend v.stack := by
  induction h with
  | done hnone => rw [stack_of_next?_none hnone, collect, List.append_nil]
  | round hnext _ ih => rw [ih, collect_next? hnext]

theorem exists_ends (descend : Bool) (v : Visit) :
    ∃ n ≤ weight v.stack, v.Ends descend n (v.found ++ collect descend v.stack) := by
  -- A round may put more filters on the stack than it takes from it, but they weigh less together.
  induction hweight : weight v.stack using Nat.strongRecOn generalizing v with
  | ind _ ih =>
      subst hweight
      cases hnext : v.next? descend with
      | none =>
          have hstack := stack_of_next?_none hnext
          refine ⟨0, Nat.zero_le _, ?_⟩
          rw [hstack, collect, List.append_nil]
          exact .done hnext
      | some w =>
          have hless := weight_next? hnext
          obtain ⟨n, hn, hends⟩ := ih _ hless w rfl
          refine ⟨n + 1, Nat.lt_of_le_of_lt hn hless, ?_⟩
          rw [← collect_next? hnext]
          exact .round hnext hends

theorem finds_collect (descend : Bool) (f : Filter) : Finds descend f (collect descend [f]) :=
  ⟨exists_ends descend (start f), fun _ _ hends => hends.found_eq⟩

end Visit

/-- The nodes from the root to each leaf. -/
def paths : Filter → List (List Filter)
  | .everything => [[.everything]]
  | .term name content => [[.term name content]]
  | .conj l r => (l.paths ++ r.paths).map (.conj l r :: ·)
  | .disj l r => (l.paths ++ r.paths).map (.disj l r :: ·)
  | .neg f => f.paths.map (.neg f :: ·)

def term? : Filter → Option (Text × Text)
  | .term name content => some (name, content)
  | _ => none

def isConjunctive : Filter → Bool
  | .disj _ _ | .neg _ => false
  | _ => true

def isTop (path : List Filter) : Bool := path.all isConjunctive

theorem filterMap_term?_below {f : Filter} (hf : f.term? = none) (ps : List (List Filter)) :
    (ps.map (f :: ·)).flatten.filterMap term? = ps.flatten.filterMap term? := by
  induction ps with
  | nil => rfl
  | cons path ps ih => simp [hf, ih, List.filterMap_append]

theorem terms_eq_paths (f : Filter) : f.terms = f.paths.flatten.filterMap term? := by
  induction f with
  | everything | term name content => rfl
  | conj l r ihl ihr | disj l r ihl ihr =>
      rw [paths, filterMap_term?_below rfl, List.flatten_append, List.filterMap_append, ← ihl, ← ihr, terms]
  | neg f ih => rw [paths, filterMap_term?_below rfl, ← ih, terms]

theorem filter_isTop_below (f : Filter) (ps : List (List Filter)) :
    (ps.map (f :: ·)).filter isTop = if f.isConjunctive then (ps.filter isTop).map (f :: ·) else [] := by
  have hcons : isTop ∘ (f :: ·) = fun path => f.isConjunctive && isTop path := rfl
  rw [List.filter_map, hcons]
  cases f.isConjunctive <;> simp

theorem topTerms_eq_paths (f : Filter) : f.topTerms = (f.paths.filter isTop).flatten.filterMap term? := by
  induction f with
  | everything | term name content => rfl
  | conj l r ihl ihr =>
      have hconj : (conj l r).isConjunctive := rfl
      rw [paths, filter_isTop_below, if_pos hconj, filterMap_term?_below rfl, List.filter_append, List.flatten_append,
        List.filterMap_append, ← ihl, ← ihr, topTerms]
  | disj l r | neg f =>
      rw [paths, filter_isTop_below]
      rfl

theorem visit_finds_terms (f : Filter) :
    Visit.Finds true f f.terms ∧ Visit.Finds false f f.topTerms ∧
    f.terms = f.paths.flatten.filterMap term? ∧ f.topTerms = (f.paths.filter isTop).flatten.filterMap term? ∧
    f.topTerms.Sublist f.terms := by
  have hall := Visit.finds_collect true f
  have htop := Visit.finds_collect false f
  rw [collect_true_singleton] at hall
  rw [collect_false_singleton] at htop
  exact ⟨hall, htop, terms_eq_paths f, topTerms_eq_paths f, topTerms_sublist f⟩

end Triage.Filter
