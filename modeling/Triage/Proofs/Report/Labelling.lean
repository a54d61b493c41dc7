import Mathlib.Data.List.FinRange
import Triage.Proofs.Filter.Diagnosis
import Triage.Report.Printer

namespace Triage

open Text

namespace Report

theorem charOffset_append (before rest : Text) : charOffset (before ++ rest) before.byteSize = before.length := by
  induction before with
  | nil => cases rest <;> rfl
  | cons c before ih =>
      have hsize := c.utf8Size_pos
      have hne : ¬ byteSize (c :: before) = 0 := by
        rw [byteSize_cons]
        omega
      have hrest : byteSize (c :: before) - c.utf8Size = byteSize before := by
        rw [byteSize_cons]
        omega
      rw [List.cons_append, charOffset, if_neg hne, hrest, ih, List.length_cons, Nat.add_comm]

structure Label.Shows (source : Text) (l : Label) (d : Diagnostic) : Prop where
  kind : l.kind = d.kind
  message : l.message = d.message.toList
  inside : l.start ≤ l.stop ∧ l.stop ≤ source.length
  selects : source.slice? d.span = some ((source.drop l.start).take (l.stop - l.start))

theorem Label.shows_ofDiagnostic {source inner : Text} {d : Diagnostic} (h : source.slice? d.span = some inner) :
    (ofDiagnostic source d).Shows source d := by
  obtain ⟨before, after, hsource, hspan⟩ := slice?_eq_some_iff.1 h
  have hstart : charOffset source d.span.start = before.length := by
    rw [hsource, hspan, List.append_assoc, charOffset_append]
  have hstop : charOffset source d.span.stop = before.length + inner.length := by
    rw [hsource, hspan, ← byteSize_append, charOffset_append, List.length_append]
  have hlabel : ofDiagnostic source d = ⟨d.kind, d.message.toList, before.length, before.length + inner.length⟩ := by
    rw [ofDiagnostic, hstart, hstop, Nat.max_eq_right (Nat.le_add_right ..)]
  rw [hlabel]
  refine ⟨rfl, rfl, ⟨Nat.le_add_right .., ?_⟩, ?_⟩
  · rw [hsource, List.length_append, List.length_append]
    exact Nat.le_add_right ..
  · rw [h, hsource, List.append_assoc, List.drop_left, Nat.add_sub_cancel_left, List.take_left]

def IsFirst (ds : List Diagnostic) (i : Fin ds.length) : Prop := ∀ j < i, ds[j].span.start ≠ ds[i].span.start

instance (ds : List Diagnostic) (i : Fin ds.length) : Decidable (IsFirst ds i) :=
  inferInstanceAs (Decidable (∀ _, _ → _))

def firsts (ds : List Diagnostic) : List Diagnostic :=
  ((List.finRange ds.length).filter fun i => IsFirst ds i).map ds.get

theorem isFirst_zero (d : Diagnostic) (ds : List Diagnostic) : IsFirst (d :: ds) ⟨0, Nat.succ_pos _⟩ := by
  intro j hj
  exact absurd hj (Nat.not_lt_zero j)

theorem isFirst_succ {d : Diagnostic} {ds : List Diagnostic} {i : Fin ds.length} :
    IsFirst (d :: ds) i.succ ↔ ds[i].span.start ≠ d.span.start ∧ IsFirst ds i := by
  constructor
  · intro h
    exact ⟨fun heq => h ⟨0, Nat.succ_pos _⟩ (Nat.succ_pos _) heq.symm, fun j hj => h j.succ (Nat.succ_lt_succ hj)⟩
  · rintro ⟨hd, hi⟩ ⟨_ | j, hj⟩ hlt
    · exact hd.symm
    · exact hi ⟨j, Nat.lt_of_succ_lt_succ hj⟩ (Nat.lt_of_succ_lt_succ hlt)

theorem filter_later (starts : List Nat) (d : Diagnostic) (ds : List Diagnostic) :
    ((List.finRange ds.length).map Fin.succ).filter
        (fun i => (d :: ds)[i].span.start ∉ starts ∧ IsFirst (d :: ds) i) =
      ((List.finRange ds.length).filter fun i =>
        ds[i].span.start ∉ d.span.start :: starts ∧ IsFirst ds i).map Fin.succ := by
  rw [List.filter_map]
  congr 1
  apply List.filter_congr
  intro i _
  simp only [Function.comp_apply, isFirst_succ, List.mem_cons, not_or, decide_eq_decide]
  rw [and_left_comm, and_assoc]
  rfl

theorem distinctFrom_eq (starts : List Nat) (ds : List Diagnostic) :
    distinctFrom starts ds =
      ((List.finRange ds.length).filter fun i => ds[i].span.start ∉ starts ∧ IsFirst ds i).map ds.get := by
  induction ds generalizing starts with
  | nil => rfl
  | cons d ds ih =>
      have hrange : List.finRange (d :: ds).length = ⟨0, Nat.succ_pos _⟩ :: (List.finRange ds.length).map Fin.succ :=
        List.finRange_succ
      rw [distinctFrom, hrange, List.filter_cons, filter_later]
      -- Behind `d` its start is taken. It is taken before, too, exactly if `d` is left out.
      by_cases hd : d.span.start ∈ starts
      · have hstarts : ∀ n, n ∉ d.span.start :: starts ↔ n ∉ starts := by
          intro n
          rw [List.mem_cons, or_iff_right_of_imp fun hn => hn ▸ hd]
        rw [if_pos (List.contains_iff_mem.2 hd), ih, if_neg fun h => (of_decide_eq_true h).1 hd, List.map_map]
        simp only [hstarts]
        rfl
      · rw [if_neg (List.contains_iff_mem.not.2 hd), ih, if_pos (decide_eq_true ⟨hd, isFirst_zero d ds⟩), List.map_cons,
          List.map_map]
        rfl

theorem labelsOf_eq (source : Text) (ds : List Diagnostic) :
    labelsOf source ds = (firsts ds).map (Label.ofDiagnostic source) := by
  have hnone : ∀ i : Fin ds.length, ds[i].span.start ∉ [] ∧ IsFirst ds i ↔ IsFirst ds i :=
    fun i => and_iff_right List.not_mem_nil
  rw [labelsOf, distinctFrom_eq, firsts]
  simp only [hnone]

theorem firsts_of_pairwise {ds : List Diagnostic} (h : ds.Pairwise fun d e => d.span.start ≠ e.span.start) :
    firsts ds = ds := by
  have hall : ∀ i ∈ List.finRange ds.length, decide (IsFirst ds i) = true := by
    intro i _
    exact decide_eq_true fun j hj => List.pairwise_iff_getElem.1 h j i j.isLt i.isLt hj
  rw [firsts, List.filter_eq_self.2 hall, List.map_get_finRange]

theorem forall₂_shows {source : Text} {ds : List Diagnostic} (h : ∀ d ∈ ds, (source.slice? d.span).isSome) :
    List.Forall₂ (Label.Shows source) (ds.map (Label.ofDiagnostic source)) ds := by
  rw [List.forall₂_map_left_iff, List.forall₂_same]
  intro d hd
  obtain ⟨inner, hinner⟩ := Option.isSome_iff_exists.1 (h d hd)
  exact Label.shows_ofDiagnostic hinner

def opening : Diagnostic.Kind → Stroke
  | .syntactic => ⟨"Error:".toList, some .red⟩
  | .semantic => ⟨"Warning:".toList, some .yellow⟩

def heading (colored : Bool) (k : Diagnostic.Kind) : Text := (opening k).write colored ++ " Invalid filter\n".toList

theorem opening_kind (r : Report) : opening r.kind = ⟨r.title, some (.ofKind r.kind)⟩ := by
  obtain ⟨source, isError, colored, labels⟩ := r
  cases isError <;> rfl

theorem writeRow_title (r : Report) (colored : Bool) :
    writeRow colored [⟨r.title, some (.ofKind r.kind)⟩, ⟨" Invalid filter".toList, none⟩] = heading colored r.kind := by
  have hrest : " Invalid filter".toList ++ ['\n'] = " Invalid filter\n".toList := by decide
  rw [writeRow, ← opening_kind, List.flatMap_cons, List.flatMap_singleton, List.append_assoc, heading, ← hrest]
  rfl

theorem heading_isPrefix_render (r : Report) : heading r.colored r.kind <+: r.render := by
  obtain ⟨rest, hrows⟩ : ∃ rest, r.rows =
      [⟨r.title, some (.ofKind r.kind)⟩, ⟨" Invalid filter".toList, none⟩] :: rest := ⟨_, rfl⟩
  rw [render, hrows, List.flatMap_cons, writeRow_title]
  exact List.prefix_append _ _

theorem eq_of_headings {colored : Bool} {k l : Diagnostic.Kind} {t : Text} (hk : heading colored k <+: t)
    (hl : heading colored l <+: t) : k = l := by
  have hor := List.prefix_or_prefix_of_prefix hk hl
  revert hor
  cases colored <;> cases k <;> cases l <;> decide

theorem heading_isPrefix_render_iff (r : Report) (k : Diagnostic.Kind) :
    heading r.colored k <+: r.render ↔ r.kind = k := by
  constructor
  · intro h
    exact eq_of_headings (heading_isPrefix_render r) h
  · rintro rfl
    exact heading_isPrefix_render r

def shown (source : Text) (ds : List Diagnostic) (colored : Bool) : List Label :=
  (ofDiagnostics? source ds colored).elim [] labels

def printed (source : Text) (ds : List Diagnostic) (colored : Bool) : Text :=
  (ofDiagnostics? source ds colored).elim [] render

theorem heading_ne_nil (colored : Bool) (k : Diagnostic.Kind) : heading colored k ≠ [] := by
  cases colored <;> cases k <;> decide

theorem kind_eq_syntactic_iff (r : Report) : r.kind = .syntactic ↔ r.isError := by
  rw [kind]
  cases r.isError <;> decide

theorem kind_eq_semantic_iff (r : Report) : r.kind = .semantic ↔ ¬ r.isError := by
  rw [kind]
  cases r.isError <;> decide

section

variable (source : Text) (ds : List Diagnostic) (colored : Bool)

def ofFirsts : Report :=
  ⟨source, ds.any (·.kind == .syntactic), colored, (firsts ds).map (Label.ofDiagnostic source)⟩

theorem ofDiagnostics?_eq :
    ofDiagnostics? source ds colored = if ds = [] then none else some (ofFirsts source ds colored) := by
  rw [ofDiagnostics?, ofFirsts, ← labelsOf_eq]
  cases ds <;> rfl

theorem labels_shown : shown source ds colored = (firsts ds).map (Label.ofDiagnostic source) := by
  rw [shown, ofDiagnostics?_eq]
  split
  · next h =>
      subst h
      rfl
  · rfl

theorem heading_isPrefix_printed_iff (k : Diagnostic.Kind) :
    heading colored k <+: printed source ds colored ↔ ds ≠ [] ∧ (ofFirsts source ds colored).kind = k := by
  rw [printed, ofDiagnostics?_eq]
  split
  · next h => exact iff_of_false (fun hp => heading_ne_nil _ _ (List.prefix_nil.1 hp)) fun hn => hn.1 h
  · next h => exact (heading_isPrefix_render_iff (ofFirsts source ds colored) k).trans (and_iff_right h).symm

theorem printed_eq_nil_iff : printed source ds colored = [] ↔ ds = [] := by
  constructor
  · intro h
    by_contra hne
    have hheading := (heading_isPrefix_printed_iff source ds colored _).2 ⟨hne, rfl⟩
    rw [h] at hheading
    exact heading_ne_nil _ _ (List.prefix_nil.1 hheading)
  · rintro rfl
    rfl

end

end Report

namespace Filter

open Grammar Report

theorem firsts_diagnostics (source : Text) : firsts (compile source).diagnostics = (compile source).diagnostics :=
  firsts_of_pairwise ((orderly_diagnostics source).ascending.imp fun h => Nat.ne_of_lt h.1)

theorem any_syntactic_iff (source : Text) :
    (compile source).diagnostics.any (·.kind == .syntactic) ↔ ∀ f, ¬ Accepts (Token.scan source) f := by
  have hparsed : (compile source).diagnostics.any (·.kind == .syntactic) ↔ ¬ (compile source).Parsed := by
    simp [Compilation.Parsed]
  rw [hparsed]
  constructor
  · intro h f hf
    exact h (parsed_of_accepts hf).2
  · intro h hp
    exact h _ (accepts_of_parsed hp)

theorem report_labels_diagnostics (colored : Bool) :
    (∀ source ds, shown source ds colored = (firsts ds).map (Label.ofDiagnostic source) ∧
      (printed source ds colored = [] ↔ ds = [])) ∧
    ∀ source, let ds := (compile source).diagnostics
      List.Forall₂ (Label.Shows source) (shown source ds colored) ds ∧
      (heading colored .syntactic <+: printed source ds colored ↔ ∀ f, ¬ Accepts (Token.scan source) f) ∧
      (heading colored .semantic <+: printed source ds colored ↔
        ds ≠ [] ∧ ∃ f, Accepts (Token.scan source) f) := by
  refine ⟨fun source ds => ⟨labels_shown source ds colored, printed_eq_nil_iff source ds colored⟩, fun source => ?_⟩
  refine ⟨?labels, ?syntactic, ?semantic⟩
  case labels =>
    rw [labels_shown, firsts_diagnostics]
    exact forall₂_shows fun d hd => ((orderly_diagnostics source).inside d hd).1
  case syntactic =>
    have hne : (compile source).diagnostics.any (·.kind == .syntactic) → (compile source).diagnostics ≠ [] := by
      intro h hnil
      rw [hnil] at h
      exact Bool.false_ne_true h
    rw [heading_isPrefix_printed_iff, kind_eq_syntactic_iff]
    exact (and_iff_right_of_imp hne).trans (any_syntactic_iff source)
  case semantic =>
    rw [heading_isPrefix_printed_iff, kind_eq_semantic_iff, ← not_forall_not, ← any_syntactic_iff]
    rfl

end Filter

end Triage
