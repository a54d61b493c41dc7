import Triage.Proofs.Filter.Application

/-!
What applying a filter changes on an issue: its labels, its milestone, its assignee and its state, each only where a
term names it, and of several terms that set one of the last three the last decides. All else stays, and a qualifier
that cannot be applied changes nothing at all.
-/

namespace Triage

theorem State.read?_eq_some_iff {content : Text} {state : State} :
    Vocabulary.read? content = some state ↔ content.sameWord (Vocabulary.preferred state) := by
  apply Vocabulary.read?_eq_some_iff_of_others
  all_goals cases state <;> decide

namespace Qualifier

theorem canApply_is_iff {content : Text} : is.canApply content ↔ state.canApply content := by
  constructor
  · intro h
    cases hread : (Vocabulary.read? content : Option Aspect) with
    | none => simp [canApply, hread] at h
    | some aspect =>
        obtain ⟨word, hword, hsame⟩ := Vocabulary.exists_word_of_read? hread
        rw [canApply, Vocabulary.read?_congr hsame]
        cases aspect with
        | opened | closed =>
            obtain rfl := List.mem_singleton.1 hword
            decide
        | _ => simp [canApply, hread] at h
  · intro h
    obtain ⟨wanted, hread⟩ := Option.isSome_iff_exists.1 h
    rw [canApply, Vocabulary.read?_congr (State.read?_eq_some_iff.1 hread)]
    cases wanted <;> decide

theorem change?_eq_none {q : Qualifier} {content : Text} (h : q.canApply content = false) (s : Snapshot) :
    q.change? s content = none := by
  have hread (hstate : ¬ state.canApply content) :
      (Vocabulary.read? content : Option State).map (fun wanted => Change.state (wanted == .opened)) = none := by
    rw [Option.map_eq_none_iff, ← Option.not_isSome_iff_eq_none]
    exact hstate
  rw [← Bool.not_eq_true] at h
  cases q with
  | label | milestone | assignee => exact absurd rfl h
  | state => exact hread h
  | is => exact hread (h ∘ canApply_is_iff.2)
  | _ => rfl

end Qualifier

namespace Filter

/-- Whether a value is what some terms leave in a place: the value that the last of them that sets it sets, or the value
before if none sets it. -/
def LastSet {α : Type} (sets : Text × Text → α → Prop) (terms : List (Text × Text)) (before after : α) : Prop :=
  (∃ earlier t later, terms = earlier ++ t :: later ∧ sets t after ∧ ∀ u ∈ later, ∀ value, ¬ sets u value) ∨
    (∀ t ∈ terms, ∀ value, ¬ sets t value) ∧ after = before

theorem LastSet.append {α : Type} {sets : Text × Text → α → Prop} {ts us : List (Text × Text)} {a b c : α}
    (h : LastSet sets ts a b) (h' : LastSet sets us b c) : LastSet sets (ts ++ us) a c := by
  rcases h' with ⟨earlier, t, later, rfl, ht, hlater⟩ | ⟨hnone, rfl⟩
  · exact .inl ⟨ts ++ earlier, t, later, by simp, ht, hlater⟩
  · rcases h with ⟨earlier, t, later, rfl, ht, hlater⟩ | ⟨hnone', rfl⟩
    · exact .inl ⟨earlier, t, later ++ us, by simp, ht, List.forall_mem_append.2 ⟨hlater, hnone⟩⟩
    · exact .inr ⟨List.forall_mem_append.2 ⟨hnone', hnone⟩, rfl⟩

theorem lastSet_single_iff {α : Type} {sets : Text × Text → α → Prop} {t : Text × Text} {before after : α} :
    LastSet sets [t] before after ↔ sets t after ∨ (∀ value, ¬ sets t value) ∧ after = before := by
  constructor
  · rintro (⟨earlier, u, later, heq, hu, -⟩ | ⟨hnone, rfl⟩)
    · obtain ⟨-, hcons⟩ | ⟨-, hnil⟩ := List.append_eq_singleton_iff.1 heq.symm
      · obtain ⟨rfl, -⟩ := List.cons.inj hcons
        exact .inl hu
      · cases hnil
    · exact .inr ⟨hnone t (List.mem_singleton_self t), rfl⟩
  · rintro (ht | ⟨hnone, rfl⟩)
    · exact .inl ⟨[], t, [], rfl, ht, by simp⟩
    · exact .inr ⟨by simpa using hnone, rfl⟩

def SetsMilestone (s : Snapshot) (t : Text × Text) (milestone : Option UInt64) : Prop :=
  Qualifier.ofName? t.1 = some .milestone ∧ ∃ m, s.milestoneMeant? t.2 = some m ∧ milestone = some m.id

def SetsAssignee (s : Snapshot) (t : Text × Text) (assignee : Option Text) : Prop :=
  Qualifier.ofName? t.1 = some .assignee ∧ assignee = some (s.loginOf t.2)

def NamesState (t : Text × Text) : Prop :=
  Qualifier.ofName? t.1 = some .state ∨ Qualifier.ofName? t.1 = some .is

def SetsState (t : Text × Text) (isOpen : Bool) : Prop :=
  NamesState t ∧ ∃ state : State, t.2.sameWord (Vocabulary.preferred state) ∧ isOpen = (state == .opened)

structure Touches (s : Snapshot) (terms : List (Text × Text)) (issue changed : Issue) : Prop where
  frame : changed = { issue with
    labels := changed.labels
    milestone := changed.milestone
    assignee := changed.assignee
    isOpen := changed.isOpen }
  labels : changed.labels ≠ issue.labels → ∃ t ∈ terms, Qualifier.ofName? t.1 = some .label
  milestone : LastSet (SetsMilestone s) terms issue.milestone changed.milestone
  assignee : LastSet (SetsAssignee s) terms issue.assignee changed.assignee
  isOpen : LastSet SetsState terms issue.isOpen changed.isOpen

theorem setsMilestone_iff {s : Snapshot} {t : Text × Text} {milestone : Option UInt64} :
    SetsMilestone s t milestone ↔ ∃ id, change? s t = some (.milestone id) ∧ milestone = some id := by
  rw [SetsMilestone, change?]
  cases Qualifier.ofName? t.1 with
  | none => simp
  | some q =>
      cases q with
      | milestone =>
          constructor
          · rintro ⟨-, m, hm, rfl⟩
            exact ⟨m.id, by simp [Qualifier.change?, hm], rfl⟩
          · rintro ⟨id, hchange, rfl⟩
            obtain ⟨m, hm, hid⟩ := Option.map_eq_some_iff.1 hchange
            cases hid
            exact ⟨rfl, m, hm, rfl⟩
      | _ => simp [Qualifier.change?]

theorem setsAssignee_iff {s : Snapshot} {t : Text × Text} {assignee : Option Text} :
    SetsAssignee s t assignee ↔ ∃ login, change? s t = some (.assignee login) ∧ assignee = some login := by
  rw [SetsAssignee, change?]
  cases Qualifier.ofName? t.1 with
  | none => simp
  | some q => cases q <;> simp [Qualifier.change?]

theorem setsState_iff (s : Snapshot) {t : Text × Text} {isOpen : Bool} :
    SetsState t isOpen ↔ change? s t = some (.state isOpen) := by
  have hread :
      (∃ state : State, t.2.sameWord (Vocabulary.preferred state) ∧ isOpen = (state == .opened)) ↔
        (Vocabulary.read? t.2 : Option State).map (fun wanted => Change.state (wanted == .opened)) =
          some (.state isOpen) := by
    simp only [Option.map_eq_some_iff, State.read?_eq_some_iff, Change.state.injEq, eq_comm (a := isOpen)]
  rw [SetsState, NamesState, hread, change?]
  cases Qualifier.ofName? t.1 with
  | none => simp
  | some q => cases q <;> simp [Qualifier.change?]

theorem ofName?_of_change?_label {s : Snapshot} {t : Text × Text} {added : Text}
    (h : change? s t = some (.label added)) : Qualifier.ofName? t.1 = some .label := by
  obtain ⟨q, hq, hchange⟩ := Option.bind_eq_some_iff.1 h
  cases q with
  | label => exact hq
  | _ => simp [Qualifier.change?] at hchange

theorem touches_applyTerm (s : Snapshot) (name content : Text) (issue : Issue) :
    Touches s [(name, content)] issue (applyTerm s name content issue) := by
  rw [applyTerm_eq_runAll]
  -- Which places the term sets is read off its change, and a change sets one place only.
  cases hchange : change? s (name, content) with
  | none =>
      constructor <;>
        simp [lastSet_single_iff, setsMilestone_iff, setsAssignee_iff, setsState_iff s, hchange]
  | some c =>
      cases c with
      | label added =>
          constructor
          case labels => exact fun _ => ⟨_, List.mem_singleton_self _, ofName?_of_change?_label hchange⟩
          all_goals
            simp [lastSet_single_iff, setsMilestone_iff, setsAssignee_iff, setsState_iff s, hchange, Change.run,
              Issue.addLabel]
      | _ =>
          constructor <;>
            simp [lastSet_single_iff, setsMilestone_iff, setsAssignee_iff, setsState_iff s, hchange, Change.run]

theorem Touches.append {s : Snapshot} {ts us : List (Text × Text)} {a b c : Issue} (h : Touches s ts a b)
    (h' : Touches s us b c) : Touches s (ts ++ us) a c := by
  constructor
  · rw [h'.frame, h.frame]
  · intro hlabels
    by_cases hfirst : b.labels = a.labels
    · rw [← hfirst] at hlabels
      obtain ⟨t, ht, hname⟩ := h'.labels hlabels
      exact ⟨t, List.mem_append_right ts ht, hname⟩
    · obtain ⟨t, ht, hname⟩ := h.labels hfirst
      exact ⟨t, List.mem_append_left us ht, hname⟩
  · exact h.milestone.append h'.milestone
  · exact h.assignee.append h'.assignee
  · exact h.isOpen.append h'.isOpen

theorem exists_apply_touches (s : Snapshot) {f : Filter} (hf : f.canApply) (issue : Issue) :
    ∃ changed, f.apply s issue = .ok changed ∧ Touches s f.terms issue changed := by
  induction f generalizing issue with
  | term name content => exact ⟨_, if_pos hf, touches_applyTerm s name content issue⟩
  | conj l r ihl ihr =>
      obtain ⟨hl, hr⟩ := Bool.and_eq_true_iff.1 hf
      obtain ⟨between, hfirst, htouches⟩ := ihl hl issue
      obtain ⟨changed, hsecond, htouches'⟩ := ihr hr between
      refine ⟨changed, ?_, htouches.append htouches'⟩
      rw [apply, if_pos hf]
      simp only [hfirst, hsecond]
  | _ => cases hf

theorem exists_setsState {f : Filter} (hf : f.canApply) {t : Text × Text} (ht : t ∈ f.terms) (hnames : NamesState t) :
    ∃ isOpen, SetsState t isOpen := by
  obtain ⟨q, hq, happly⟩ := canApply_of_mem_terms hf ht
  have hstate : Qualifier.state.canApply t.2 := by
    rcases hnames with hname | hname
    · obtain rfl := Option.some.inj (hq.symm.trans hname)
      exact happly
    · obtain rfl := Option.some.inj (hq.symm.trans hname)
      exact Qualifier.canApply_is_iff.1 happly
  obtain ⟨wanted, hread⟩ := Option.isSome_iff_exists.1 hstate
  exact ⟨wanted == .opened, hnames, wanted, State.read?_eq_some_iff.1 hread, rfl⟩

theorem apply_touches_named (s : Snapshot) (issue : Issue) :
    (∀ f : Filter, f.canApply →
      (∃ changed, f.apply s issue = .ok changed ∧ Touches s f.terms issue changed) ∧
        ∀ t ∈ f.terms, NamesState t → ∃ isOpen, SetsState t isOpen) ∧
      ∀ (q : Qualifier) (content : Text), q.canApply content = false → q.apply s content issue = issue := by
  constructor
  · exact fun f hf => ⟨exists_apply_touches s hf issue, fun t ht => exists_setsState hf ht⟩
  · intro q content hq
    rw [q.apply_eq_runAll, Qualifier.change?_eq_none hq]
    rfl

/-- Takes an issue over. There is no milestone for `v9`, and so the one named before it stays. -/
def takingOver : Filter :=
  .conj
    (.conj (.conj (.term "label".toList "Type.bug".toList) (.term "assignee".toList "ann".toList))
      (.conj (.term "milestone".toList "v0.1".toList) (.term "state".toList "closed".toList)))
    (.conj (.conj (.term "assignee".toList "kim".toList) (.term "milestone".toList "v9".toList))
      (.term "is".toList "OPEN".toList))

theorem apply_touches_takingOver :
    takingOver.canApply ∧ Qualifier.is.canApply "merged".toList = false ∧
      takingOver.apply twoReleases.toSnapshot (planned (some 1)) =
        .ok { planned (some 2) with labels := ["Type.bug".toList], assignee := some "kim".toList } ∧
      Touches twoReleases.toSnapshot takingOver.terms (planned (some 1))
        { planned (some 2) with labels := ["Type.bug".toList], assignee := some "kim".toList } ∧
      (∃ isOpen, SetsState ("is".toList, "OPEN".toList) isOpen) ∧
      Qualifier.is.apply twoReleases.toSnapshot "merged".toList (planned (some 1)) = planned (some 1) := by
  have hf : takingOver.canApply := by decide
  have hmerged : Qualifier.is.canApply "merged".toList = false := by decide
  obtain ⟨hfilter, hqualifier⟩ := apply_touches_named twoReleases.toSnapshot (planned (some 1))
  obtain ⟨⟨changed, happly, htouches⟩, hstate⟩ := hfilter takingOver hf
  have hchanges : takingOver.changes twoReleases.toSnapshot =
      [.label "Type.bug".toList, .assignee "ann".toList, .milestone 2, .state false, .assignee "kim".toList,
        .state true] := by decide
  have hrun := apply_eq_runAll hf (s := twoReleases.toSnapshot) (planned (some 1))
  rw [hchanges] at hrun
  obtain rfl := Except.ok.inj (happly.symm.trans hrun)
  exact ⟨hf, hmerged, happly, htouches, hstate _ (by decide) (.inr (by decide)), hqualifier _ _ hmerged⟩

end Filter

end Triage
