import Triage.Filter
import Triage.Proofs.Qualifier.Names
import Triage.Proofs.SortKey.Order

namespace Triage

open Std

theorem pairwise_mergeSort_stable {α : Type} {le : α → α → Bool} {r : α → α → Prop}
    (trans : ∀ a b c, le a b → le b c → le a c) (total : ∀ a b, le a b || le b a) {l : List α} (h : l.Pairwise r) :
    (l.mergeSort le).Pairwise fun a b => le a b ∧ (le b a → r a b) := by
  induction l with
  | nil => simp
  | cons a l ih =>
      -- The first element comes after the elements strictly below it and before the rest, whose order it leaves alone.
      obtain ⟨before, after, hcons, hl, hbefore⟩ := List.mergeSort_cons trans total a l
      have hsorted := List.pairwise_mergeSort trans total (a :: l)
      obtain ⟨hhead, htail⟩ := List.pairwise_cons.1 h
      have hrest := ih htail
      rw [hl, List.pairwise_append] at hrest
      rw [hcons, List.pairwise_append, List.pairwise_cons] at hsorted
      rw [hcons, List.pairwise_append, List.pairwise_cons]
      obtain ⟨hfirst, hsecond, hacross⟩ := hrest
      refine ⟨hfirst, ⟨fun b hb => ⟨hsorted.2.1.1 b hb, fun _ => hhead b ?_⟩, hsecond⟩, fun b hb c hc => ?_⟩
      · have hmem : b ∈ l.mergeSort le := hl ▸ List.mem_append_right before hb
        exact List.mem_mergeSort.1 hmem
      · rcases List.mem_cons.1 hc with rfl | hc
        · exact ⟨hsorted.2.2 b hb c hc, fun hle => absurd hle (by simpa using hbefore b hb)⟩
        · exact hacross b hb c hc

theorem mergeSort_eq_of_stable {α : Type} {le : α → α → Bool} {r : α → α → Prop}
    (trans : ∀ a b c, le a b → le b c → le a c) (total : ∀ a b, le a b || le b a) (asymm : ∀ a b, r a b → ¬ r b a)
    {l sorted : List α} (h : l.Pairwise r) (hperm : l.Perm sorted)
    (hsorted : sorted.Pairwise fun a b => le a b ∧ (le b a → r a b)) : l.mergeSort le = sorted := by
  refine List.Perm.eq_of_pairwise (fun a b _ _ hab hba => ?_) (pairwise_mergeSort_stable trans total h) hsorted
    ((List.mergeSort_perm l le).trans hperm)
  exact absurd (hba.2 hab.1) (asymm a b (hab.2 hba.1))

namespace Filter

def SortTerm (term : Text × Text) (keys : List SortKey) : Prop :=
  term.1.sameWord "sort".toList ∧ SortKey.readAll term.2 = .ok keys

/-- The keys of the first term that says how to sort, and no keys if no term does. -/
def SortsBy (f : Filter) (keys : List SortKey) : Prop :=
  (∃ before term after, f.terms = before ++ term :: after ∧ SortTerm term keys ∧
    ∀ earlier ∈ before, ∀ other, ¬ SortTerm earlier other) ∨
  (∀ term ∈ f.terms, ∀ other, ¬ SortTerm term other) ∧ keys = []

def CutsAt (f : Filter) (n : Nat) : Prop :=
  ∃ term, f.topTerms.filter (fun term => term.1.sameWord "count".toList) = [term] ∧
    readInteger? term.2 = some (Int.ofNat n)

def matching (ctx : Context) (f : Filter) : List Nat :=
  (List.range ctx.issues.length).filter fun i => ctx.issues[i]?.any fun issue => f.satisfiedBy ctx issue

def RanksBefore (ctx : Context) (keys : List SortKey) (i j : Nat) : Prop :=
  ∃ a b, ctx.issues[i]? = some a ∧ ctx.issues[j]? = some b ∧
    (SortKey.Precedes ctx.toSnapshot keys a b ∨ (∀ key ∈ keys, key.Ties ctx.toSnapshot a b) ∧ i < j)

structure Ranking (ctx : Context) (f : Filter) (keys : List SortKey) (order : List Nat) : Prop where
  perm : order.Perm (f.matching ctx)
  ranked : order.Pairwise (RanksBefore ctx keys)

theorem findSome?_contentsOf {α : Type} (q : Qualifier) (read : Text → Option α) (terms : List (Text × Text)) :
    (contentsOf q terms).findSome? read =
      terms.findSome? fun term => if Qualifier.ofName? term.1 = some q then read term.2 else none := by
  induction terms with
  | nil => rfl
  | cons term terms ih =>
      by_cases h : Qualifier.ofName? term.1 = some q
      · simp_all [contentsOf, List.findSome?_cons]
      · simp_all [contentsOf]

theorem sortTerm_iff (term : Text × Text) (keys : List SortKey) :
    (if Qualifier.ofName? term.1 = some .sort then (SortKey.readAll term.2).toOption else none) = some keys ↔
      SortTerm term keys := by
  have hname : Qualifier.ofName? term.1 = some .sort ↔ term.1.sameWord "sort".toList :=
    Qualifier.ofName?_eq_some_iff_of_others rfl
  rw [SortTerm, ← hname]
  split
  · next h => cases SortKey.readAll term.2 <;> simp [h, Except.toOption]
  · next h => simp [h]

theorem sortKeys?_eq_some_iff {f : Filter} {keys : List SortKey} :
    f.sortKeys? = some keys ↔ ∃ before term after, f.terms = before ++ term :: after ∧ SortTerm term keys ∧
      ∀ earlier ∈ before, ∀ other, ¬ SortTerm earlier other := by
  rw [sortKeys?, findSome?_contentsOf, List.findSome?_eq_some_iff]
  simp only [Option.eq_none_iff_forall_ne_some, ne_eq, sortTerm_iff]

theorem sortKeys?_eq_none_iff {f : Filter} :
    f.sortKeys? = none ↔ ∀ term ∈ f.terms, ∀ other, ¬ SortTerm term other := by
  rw [sortKeys?, findSome?_contentsOf, List.findSome?_eq_none_iff]
  simp only [Option.eq_none_iff_forall_ne_some, ne_eq, sortTerm_iff]

theorem sortsBy_iff {f : Filter} {keys : List SortKey} : f.SortsBy keys ↔ keys = f.sortKeys?.getD [] := by
  rw [SortsBy, ← sortKeys?_eq_some_iff, ← sortKeys?_eq_none_iff]
  cases f.sortKeys? <;> simp [eq_comm]

theorem limit?_eq_some_iff {f : Filter} {n : Nat} : f.limit? = some n ↔ f.CutsAt n := by
  have hname : ∀ term ∈ f.topTerms,
      (Qualifier.ofName? term.1 == some .count) = term.1.sameWord "count".toList := fun term _ =>
    Bool.eq_iff_iff.2 (beq_iff_eq.trans (Qualifier.ofName?_eq_some_iff_of_others rfl))
  rw [limit?, contentsOf, List.filter_congr hname, CutsAt]
  cases hcounts : f.topTerms.filter (fun term => term.1.sameWord "count".toList) with
  | nil => simp
  | cons first rest =>
      cases rest with
      | nil => simp [Option.bind_eq_some_iff, Int.mem_toNat?]
      | cons second rest => simp

def candidates (ctx : Context) (f : Filter) : List (Issue × Nat) :=
  ctx.issues.zipIdx.filter fun entry => f.satisfiedBy ctx entry.1

def ordered (ctx : Context) (f : Filter) (keys : List SortKey) : List (Issue × Nat) :=
  (f.candidates ctx).mergeSort fun p q => (SortKey.compareAll ctx.toSnapshot keys p.1 q.1).isLE

theorem candidates_map_fst (ctx : Context) (f : Filter) :
    (f.candidates ctx).map Prod.fst = ctx.issues.filter fun issue => f.satisfiedBy ctx issue :=
  calc (f.candidates ctx).map Prod.fst
      = (ctx.issues.zipIdx.map Prod.fst).filter fun issue => f.satisfiedBy ctx issue := by
        rw [List.filter_map]
        rfl
    _ = ctx.issues.filter fun issue => f.satisfiedBy ctx issue := by rw [List.zipIdx_map_fst]

theorem getElem?_of_mem_candidates {ctx : Context} {f : Filter} {entry : Issue × Nat} (h : entry ∈ f.candidates ctx) :
    ctx.issues[entry.2]? = some entry.1 :=
  List.mem_zipIdx_iff_getElem?.1 (List.mem_filter.1 h).1

theorem candidates_map_snd (ctx : Context) (f : Filter) : (f.candidates ctx).map Prod.snd = f.matching ctx := by
  have hrange : List.range ctx.issues.length = ctx.issues.zipIdx.map Prod.snd := by
    rw [List.zipIdx_map_snd, List.range_eq_range']
  rw [matching, hrange, List.filter_map, candidates]
  congr 1
  apply List.filter_congr
  intro entry hentry
  simp [List.mem_zipIdx_iff_getElem?.1 hentry]

theorem pairwise_candidates (ctx : Context) (f : Filter) : (f.candidates ctx).Pairwise fun p q => p.2 < q.2 := by
  rw [← List.pairwise_map, candidates_map_snd]
  exact List.pairwise_lt_range.filter _

theorem ranking_ordered (ctx : Context) (f : Filter) (keys : List SortKey) :
    Ranking ctx f keys ((f.ordered ctx keys).map Prod.snd) := by
  constructor
  · rw [← candidates_map_snd]
    exact (List.mergeSort_perm _ _).map Prod.snd
  · have hsorted := pairwise_mergeSort_stable
      (fun p q r : Issue × Nat => isLE_trans (SortKey.compareAll ctx.toSnapshot keys) p.1 q.1 r.1)
      (fun p q => isLE_total (SortKey.compareAll ctx.toSnapshot keys) p.1 q.1) (pairwise_candidates ctx f)
    rw [List.pairwise_map, ordered]
    apply hsorted.imp_of_mem
    rintro p q hp hq ⟨hle, hstable⟩
    refine ⟨p.1, q.1, getElem?_of_mem_candidates (List.mem_mergeSort.1 hp),
      getElem?_of_mem_candidates (List.mem_mergeSort.1 hq), ?_⟩
    rcases Ordering.isLE_iff_eq_lt_or_eq_eq.1 hle with hlt | heq
    · exact .inl ((SortKey.compareAll_eq_lt _ keys).1 hlt)
    · have hge : SortKey.compareAll ctx.toSnapshot keys q.1 p.1 = .eq := OrientedCmp.eq_symm heq
      exact .inr ⟨(SortKey.compareAll_eq_eq _ keys).1 heq, hstable (by rw [hge]; rfl)⟩

theorem ranksBefore_asymm {ctx : Context} {keys : List SortKey} {i j : Nat} (h : RanksBefore ctx keys i j) :
    ¬ RanksBefore ctx keys j i := by
  rintro ⟨b', a', hb', ha', h'⟩
  obtain ⟨a, b, ha, hb, h⟩ := h
  obtain rfl : a = a' := Option.some.inj (ha.symm.trans ha')
  obtain rfl : b = b' := Option.some.inj (hb.symm.trans hb')
  rw [← SortKey.compareAll_eq_lt, ← SortKey.compareAll_eq_eq] at h h'
  rcases h with hlt | ⟨heq, hij⟩ <;> rcases h' with hlt' | ⟨heq', hji⟩
  · exact OrientedCmp.not_lt_of_lt hlt hlt'
  · rw [OrientedCmp.eq_symm heq'] at hlt
    contradiction
  · rw [OrientedCmp.eq_symm heq] at hlt'
    contradiction
  · omega

theorem ranking_unique {ctx : Context} {f : Filter} {keys : List SortKey} {order order' : List Nat}
    (h : Ranking ctx f keys order) (h' : Ranking ctx f keys order') : order = order' :=
  List.Perm.eq_of_pairwise (fun _ _ _ _ hij hji => absurd hji (ranksBefore_asymm hij)) h.ranked h'.ranked
    (h.perm.trans h'.perm.symm)

theorem map_ordered (ctx : Context) (f : Filter) (keys : List SortKey) :
    ((f.ordered ctx keys).map Prod.fst).map some = ((f.ordered ctx keys).map Prod.snd).map (ctx.issues[·]?) := by
  rw [List.map_map, List.map_map]
  apply List.map_congr_left
  intro entry hentry
  exact (getElem?_of_mem_candidates (List.mem_mergeSort.1 hentry)).symm

theorem ordered_map_fst (ctx : Context) (f : Filter) (keys : List SortKey) :
    (f.ordered ctx keys).map Prod.fst =
      (ctx.issues.filter fun issue => f.satisfiedBy ctx issue).mergeSort fun a b =>
        (SortKey.compareAll ctx.toSnapshot keys a b).isLE := by
  rw [← candidates_map_fst]
  exact List.map_mergeSort fun _ _ _ _ => rfl

theorem ordered_nil (ctx : Context) (f : Filter) :
    (f.ordered ctx []).map Prod.fst = ctx.issues.filter fun issue => f.satisfiedBy ctx issue := by
  rw [ordered_map_fst]
  exact List.mergeSort_of_pairwise (List.pairwise_of_forall fun _ _ => rfl)

theorem select_eq (ctx : Context) (f : Filter) {keys : List SortKey} (h : f.SortsBy keys) :
    f.select ctx =
      match f.limit? with
      | some n => ((f.ordered ctx keys).map Prod.fst).take n
      | none => (f.ordered ctx keys).map Prod.fst := by
  rw [sortsBy_iff.1 h, select]
  cases f.sortKeys? with
  | none =>
      have hsorted := (ordered_nil ctx f).symm
      cases f.limit? with
      | none => exact hsorted
      | some n => exact congrArg (List.take n) hsorted
  | some keys =>
      have hsorted := (ordered_map_fst ctx f keys).symm
      cases f.limit? with
      | none => exact hsorted
      | some n => exact congrArg (List.take n) hsorted

theorem select_ranking (ctx : Context) (f : Filter) :
    ∃ keys order, (∀ other, f.SortsBy other ↔ other = keys) ∧ (∀ other, Ranking ctx f keys other ↔ other = order) ∧
      (∀ n, f.CutsAt n → (f.select ctx).map some = (order.take n).map (ctx.issues[·]?)) ∧
      ((∀ n, ¬ f.CutsAt n) → (f.select ctx).map some = order.map (ctx.issues[·]?)) := by
  obtain ⟨keys, hkeys⟩ : ∃ keys, f.sortKeys?.getD [] = keys := ⟨_, rfl⟩
  have hranking := ranking_ordered ctx f keys
  refine ⟨keys, (f.ordered ctx keys).map Prod.snd, fun other => ?_, fun other => ⟨fun h => ?_, ?_⟩, fun n hn => ?_,
    fun hn => ?_⟩
  · rw [sortsBy_iff, hkeys]
  · exact ranking_unique h hranking
  · rintro rfl
    exact hranking
  · rw [select_eq ctx f (sortsBy_iff.2 hkeys.symm), limit?_eq_some_iff.2 hn, List.map_take, map_ordered, List.map_take]
  · have hnone : f.limit? = none := Option.eq_none_iff_forall_ne_some.2 fun n h => hn n (limit?_eq_some_iff.1 h)
    rw [select_eq ctx f (sortsBy_iff.2 hkeys.symm), hnone, map_ordered]

end Filter

end Triage
