import Triage.Proofs.Filter.Selection

namespace Triage.Filter

inductive Joins : List Filter → Filter → Prop
  | part (f : Filter) : Joins [f] f
  | conj {fs gs l r} : Joins fs l → Joins gs r → Joins (fs ++ gs) (.conj l r)

theorem Joins.terms_eq {fs : List Filter} {f : Filter} (h : Joins fs f) : f.terms = fs.flatMap terms := by
  induction h with
  | part f => rw [List.flatMap_singleton]
  | conj _ _ ihl ihr => rw [terms, ihl, ihr, List.flatMap_append]

theorem Joins.topTerms_eq {fs : List Filter} {f : Filter} (h : Joins fs f) : f.topTerms = fs.flatMap topTerms := by
  induction h with
  | part f => rw [List.flatMap_singleton]
  | conj _ _ ihl ihr => rw [topTerms, ihl, ihr, List.flatMap_append]

theorem Joins.satisfiedBy_eq {fs : List Filter} {f : Filter} (h : Joins fs f) (ctx : Context) (issue : Issue) :
    f.satisfiedBy ctx issue = fs.all (·.satisfiedBy ctx issue) := by
  induction h with
  | part f => rw [List.all_cons, List.all_nil, Bool.and_true]
  | conj _ _ ihl ihr => rw [satisfiedBy, ihl, ihr, List.all_append]

def IsSorting (term : Text × Text) : Prop := ∃ keys, SortTerm term keys

instance : DecidablePred IsSorting := fun term =>
  decidable_of_iff (term.1.sameWord "sort".toList ∧ (SortKey.readAll term.2).toOption.isSome) <| by
    rw [IsSorting]
    simp only [SortTerm]
    cases SortKey.readAll term.2 <;> simp [Except.toOption]

def SortsOnce (terms : List (Text × Text)) : Prop := terms.Pairwise fun t u => ¬ (IsSorting t ∧ IsSorting u)

theorem SortsOnce.perm {ts us : List (Text × Text)} (h : SortsOnce ts) (hperm : ts.Perm us) : SortsOnce us :=
  List.Pairwise.perm h hperm fun hne hboth => hne hboth.symm

theorem sortKeys?_eq_some_iff_of_sortsOnce {f : Filter} (h : SortsOnce f.terms) {keys : List SortKey} :
    f.sortKeys? = some keys ↔ ∃ term ∈ f.terms, SortTerm term keys := by
  rw [sortKeys?_eq_some_iff]
  constructor
  · rintro ⟨before, term, after, hterms, hterm, -⟩
    exact ⟨term, by simp [hterms], hterm⟩
  · rintro ⟨term, hmem, hterm⟩
    obtain ⟨before, after, hterms⟩ := List.append_of_mem hmem
    rw [hterms, SortsOnce, List.pairwise_append] at h
    refine ⟨before, term, after, hterms, hterm, fun earlier hearlier other hother => ?_⟩
    exact h.2.2 earlier hearlier term List.mem_cons_self ⟨⟨other, hother⟩, ⟨keys, hterm⟩⟩

theorem sortKeys?_congr {f g : Filter} (h : f.terms.Perm g.terms) (honce : SortsOnce f.terms) :
    f.sortKeys? = g.sortKeys? := by
  apply Option.ext
  intro keys
  rw [sortKeys?_eq_some_iff_of_sortsOnce honce, sortKeys?_eq_some_iff_of_sortsOnce (honce.perm h)]
  simp only [h.mem_iff]

theorem cutsAt_congr {f g : Filter} (h : f.topTerms.Perm g.topTerms) {n : Nat} (hf : f.CutsAt n) : g.CutsAt n := by
  obtain ⟨term, hcounts, hread⟩ := hf
  have hperm := h.filter fun term => term.1.sameWord "count".toList
  rw [hcounts] at hperm
  exact ⟨term, List.perm_singleton.1 hperm.symm, hread⟩

theorem limit?_congr {f g : Filter} (h : f.topTerms.Perm g.topTerms) : f.limit? = g.limit? := by
  apply Option.ext
  intro n
  rw [limit?_eq_some_iff, limit?_eq_some_iff]
  exact ⟨cutsAt_congr h, cutsAt_congr h.symm⟩

theorem select_congr {f g : Filter} {ctx : Context}
    (hsatisfied : ∀ issue, f.satisfiedBy ctx issue = g.satisfiedBy ctx issue)
    (hkeys : f.sortKeys? = g.sortKeys?) (hlimit : f.limit? = g.limit?) : f.select ctx = g.select ctx := by
  simp only [select, hsatisfied, hkeys, hlimit]

theorem select_rejoined {fs gs : List Filter} {f g : Filter} (hf : Joins fs f) (hg : Joins gs g) (hperm : fs.Perm gs)
    (honce : SortsOnce (fs.flatMap terms)) (ctx : Context) :
    f.select ctx = g.select ctx ∧ f.sortKeys? = g.sortKeys? ∧ f.limit? = g.limit? := by
  have hterms : f.terms.Perm g.terms := by
    rw [hf.terms_eq, hg.terms_eq]
    exact hperm.flatMap_right terms
  have htop : f.topTerms.Perm g.topTerms := by
    rw [hf.topTerms_eq, hg.topTerms_eq]
    exact hperm.flatMap_right topTerms
  have hsatisfied : ∀ issue, f.satisfiedBy ctx issue = g.satisfiedBy ctx issue := by
    intro issue
    rw [hf.satisfiedBy_eq, hg.satisfiedBy_eq, hperm.all_eq]
  have hkeys : f.sortKeys? = g.sortKeys? := sortKeys?_congr hterms (hf.terms_eq ▸ honce)
  have hlimit : f.limit? = g.limit? := limit?_congr htop
  exact ⟨select_congr hsatisfied hkeys hlimit, hkeys, hlimit⟩

def panel : List Filter :=
  [.term "count".toList "2".toList, .disj (.term "is".toList "open".toList) (.neg (.term "Sort".toList "-id".toList)),
    .term "sort".toList "colour".toList, .term "no".toList "assignee".toList]

def leftward : Filter :=
  .conj (.conj (.conj (.term "count".toList "2".toList)
    (.disj (.term "is".toList "open".toList) (.neg (.term "Sort".toList "-id".toList))))
    (.term "sort".toList "colour".toList)) (.term "no".toList "assignee".toList)

def nested : Filter :=
  .conj (.term "no".toList "assignee".toList) (.conj (.conj (.term "sort".toList "colour".toList)
    (.disj (.term "is".toList "open".toList) (.neg (.term "Sort".toList "-id".toList))))
    (.term "count".toList "2".toList))

def numbered (id : UInt64) : Issue where
  id := id
  title := []
  author := []
  createdAt := .midnight ⟨2024, 2, 1, by decide⟩
  updatedAt := .midnight ⟨2024, 2, 1, by decide⟩

def four : Context where
  issues := [numbered 1, { numbered 2 with isOpen := false }, numbered 3, numbered 4]
  now := .midnight ⟨2024, 3, 1, by decide⟩

theorem joins_leftward : Joins panel leftward := (((Joins.part _).conj (.part _)).conj (.part _)).conj (.part _)

theorem joins_nested : Joins panel.reverse nested :=
  (Joins.part _).conj (((Joins.part _).conj (.part _)).conj (.part _))

theorem select_rejoined_reversed :
    Joins panel leftward ∧ Joins panel.reverse nested ∧ panel.Perm panel.reverse ∧ SortsOnce (panel.flatMap terms) ∧
      leftward.select four = nested.select four ∧ leftward.sortKeys? = nested.sortKeys? ∧
      leftward.limit? = nested.limit? ∧ leftward.sortKeys? = some [⟨.id, true⟩] ∧ leftward.limit? = some 2 := by
  have hperm : panel.Perm panel.reverse := (List.reverse_perm panel).symm
  have honce : SortsOnce (panel.flatMap terms) := by
    rw [SortsOnce]
    decide
  obtain ⟨hselect, hkeys, hlimit⟩ := select_rejoined joins_leftward joins_nested hperm honce four
  exact ⟨joins_leftward, joins_nested, hperm, honce, hselect, hkeys, hlimit, by decide, by decide⟩

end Triage.Filter
