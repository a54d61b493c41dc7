import Triage.Qualifier

namespace Triage

theorem Vocabulary.read?_congr {α : Type} [Vocabulary α] {s t : Text} (h : s.sameWord t) :
    (read? s : Option α) = read? t := by
  have hst : s.sameWord = t.sameWord := by
    funext word
    rw [Text.sameWord, Text.sameWord, beq_iff_eq.1 h]
  rw [read?, read?, hst]

theorem Vocabulary.exists_word_of_read? {α : Type} [Vocabulary α] {t : Text} {a : α} (h : read? t = some a) :
    ∃ word ∈ words a, t.sameWord word := by
  have hany := List.find?_some (show all.find? (fun a : α => (words a).any t.sameWord) = some a from h)
  exact List.any_eq_true.1 hany

theorem Vocabulary.read?_eq_some_iff {α : Type} [Vocabulary α] {a : α} (hwords : ∀ word ∈ words a, read? word = some a)
    {t : Text} : read? t = some a ↔ ∃ word ∈ words a, t.sameWord word := by
  refine ⟨exists_word_of_read?, ?_⟩
  rintro ⟨word, hword, hsame⟩
  exact (read?_congr hsame).trans (hwords word hword)

theorem Vocabulary.read?_eq_some_iff_of_others {α : Type} [Vocabulary α] {a : α} (hothers : others a = [])
    (hword : read? (preferred a) = some a) {t : Text} : read? t = some a ↔ t.sameWord (preferred a) := by
  have hwords : words a = [preferred a] := by rw [words, hothers]
  rw [read?_eq_some_iff (by simpa only [hwords, List.forall_mem_singleton] using hword), hwords]
  simp only [List.mem_singleton, exists_eq_left]

namespace Qualifier

theorem ofName?_word (q : Qualifier) : ∀ word ∈ Vocabulary.words q, ofName? word = some q := by
  cases q <;> decide

theorem ofName?_eq_some_iff_of_others {q : Qualifier} {name : Text} (h : Vocabulary.others q = []) :
    ofName? name = some q ↔ name.sameWord q.name :=
  Vocabulary.read?_eq_some_iff_of_others h (ofName?_word q q.name List.mem_cons_self)

end Qualifier

end Triage
