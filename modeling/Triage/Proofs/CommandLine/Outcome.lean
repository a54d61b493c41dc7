import Triage.CommandLine.Run
import Triage.Proofs.Filter.Recognition

/-!
How a run ends. The snapshot alone decides whether it succeeds: with one, the run lists what the filter selects, which
is every issue if the text is no filter; without one, nothing of the filter is looked at.
-/

namespace Triage

namespace Filter

theorem select_everything (ctx : Context) : everything.select ctx = ctx.issues := List.filter_eq_self.2 fun _ _ => rfl

theorem everything_of_not_parsed {source : Text} (h : ¬ (compile source).Parsed) :
    (compile source).filter = .everything := by
  have hnone : ∀ f, ¬ Grammar.Accepts (Token.scan source) f := fun f hf => h (parsed_of_accepts hf).2
  obtain ⟨rs, m, hc⟩ := compile_of_not_accepts hnone
  rw [hc]

end Filter

namespace CommandLine

def Loads (file : File) (s : Snapshot) : Prop := ∃ bytes, file = .ok bytes ∧ Snapshot.load bytes = .ok s

def shown (settings : Settings) (clock : Timestamp) (s : Snapshot) : List Issue :=
  (Filter.compile settings.filter).filter.select (contextOf settings clock s)

def treeText (settings : Settings) : Text :=
  if settings.showTree then (Filter.compile settings.filter).filter.print ++ ['\n'] else []

structure Lists (settings : Settings) (clock : Timestamp) (s : Snapshot) (issues : List Issue) : Prop where
  selected : shown settings clock s = issues
  succeeds : ∀ file, Loads file s → (runWith settings clock file).exit = 0
  printed : ∀ file, Loads file s →
    (runWith settings clock file).stdout = treeText settings ++ issues.flatMap resultLine

theorem loads_unique {file : File} {s s' : Snapshot} (h : Loads file s) (h' : Loads file s') : s = s' := by
  obtain ⟨bytes, rfl, hload⟩ := h
  obtain ⟨bytes', hbytes, hload'⟩ := h'
  cases hbytes
  exact Except.ok.inj (hload.symm.trans hload')

theorem runWith_of_loads {file : File} {s : Snapshot} (h : Loads file s) (settings : Settings) (clock : Timestamp) :
    runWith settings clock file = answer settings clock s := by
  obtain ⟨bytes, rfl, hload⟩ := h
  rw [runWith, hload]

theorem runWith_of_not_loads {file : File} (h : ¬ ∃ s, Loads file s) :
    ∃ what reason, ∀ settings clock, runWith settings clock file = failure settings what reason := by
  cases file with
  | error reason => exact ⟨"read", String.ofList reason, fun _ _ => rfl⟩
  | ok bytes =>
      cases hload : Snapshot.load bytes with
      | ok s => exact absurd ⟨s, bytes, rfl, hload⟩ h
      | error fault =>
          cases fault with
          | notText => exact ⟨"read", _, fun _ _ => by rw [runWith, hload]⟩
          | notSnapshot => exact ⟨"decode", _, fun _ _ => by rw [runWith, hload]⟩

theorem lists_shown (settings : Settings) (clock : Timestamp) (s : Snapshot) :
    Lists settings clock s (shown settings clock s) where
  selected := rfl
  succeeds := fun file h => by rw [runWith_of_loads h, answer]
  printed := fun file h => by rw [runWith_of_loads h, answer, treeText, shown]

theorem shown_of_not_parsed {settings : Settings} (h : ¬ (Filter.compile settings.filter).Parsed) (clock : Timestamp)
    (s : Snapshot) : shown settings clock s = s.issues := by
  rw [shown, Filter.everything_of_not_parsed h, Filter.select_everything]
  rfl

theorem treeText_of_not_parsed {settings : Settings} (h : ¬ (Filter.compile settings.filter).Parsed) :
    treeText settings = if settings.showTree then ['\n'] else [] := by
  rw [treeText, Filter.everything_of_not_parsed h]
  rfl

theorem runWith_outcome (settings : Settings) (clock : Timestamp) (file : File) :
    ((runWith settings clock file).exit = 0 ↔ ∃ s, Loads file s) ∧
    (∀ s, Loads file s →
      (runWith settings clock file).stdout =
          (if settings.showTree then (Filter.compile settings.filter).filter.print ++ ['\n'] else []) ++
            ((Filter.compile settings.filter).filter.select (contextOf settings clock s)).flatMap resultLine ∧
        ((∃ d ∈ (Filter.compile settings.filter).diagnostics, d.kind = .syntactic) →
          (runWith settings clock file).stdout =
            (if settings.showTree then ['\n'] else []) ++ s.issues.flatMap resultLine)) ∧
    ((¬ ∃ s, Loads file s) → (runWith settings clock file).exit = 1 ∧ (runWith settings clock file).stdout = [] ∧
      ∀ other, runWith { settings with filter := other } clock file = runWith settings clock file) ∧
    ∀ issue, resultLine issue = '#' :: (Nat.toDigits 10 issue.id.toNat).rightpad 6 ' ' ++ issue.title ++ ['\n'] := by
  by_cases hex : ∃ s, Loads file s
  · obtain ⟨s, h⟩ := hex
    obtain ⟨-, hexit, hprinted⟩ := lists_shown settings clock s
    refine ⟨iff_of_true (hexit file h) ⟨s, h⟩, fun s' h' => ?_, fun hnone => absurd ⟨s, h⟩ hnone, resultLine_eq⟩
    obtain rfl := loads_unique h h'
    refine ⟨hprinted file h, fun ⟨d, hd, hkind⟩ => ?_⟩
    have hunparsed : ¬ (Filter.compile settings.filter).Parsed := fun hparsed => hparsed d hd hkind
    rw [hprinted file h, treeText_of_not_parsed hunparsed, shown_of_not_parsed hunparsed]
  · obtain ⟨what, reason, hrun⟩ := runWith_of_not_loads hex
    simp only [hrun]
    exact ⟨iff_of_false (by simp [failure]) hex, fun s h => absurd ⟨s, h⟩ hex, fun _ => ⟨rfl, rfl, fun _ => rfl⟩,
      resultLine_eq⟩

end CommandLine

end Triage
