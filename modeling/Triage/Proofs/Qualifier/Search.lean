import Triage.Proofs.Qualifier.Fulfilment
import Triage.Proofs.Text.Lowering

/-!
Search in the texts of an issue. A text and the content to be found in it are lowered each by itself. So content that
stands in a text as it is written is found there, unless a capital sigma ends a word in one of them and not in the
other. Content is found wherever it stands just if a letter put before it or after it leaves its lower case as it is.
-/

namespace Triage

theorem Text.mentions_lower_iff {t content : Text} : t.mentions content.lower ↔ content.lower <:+: t.lower :=
  occursIn_iff

namespace Qualifier

structure FoundThrough (ctx : Context) (content : Text) (p : Text → Prop) (issue : Issue) : Prop where
  title : p issue.title → (title.predicate ctx content).holds issue ∧ (keyword.predicate ctx content).holds issue
  body : p issue.body → (body.predicate ctx content).holds issue ∧ (keyword.predicate ctx content).holds issue
  author : p issue.author → (author.predicate ctx content).holds issue ∧ (involves.predicate ctx content).holds issue

theorem foundThrough_of_lower {content : Text} {p : Text → Prop} (h : ∀ t, p t → content.lower <:+: t.lower)
    (ctx : Context) (issue : Issue) : FoundThrough ctx content p issue := by
  have hmentions (t : Text) (ht : p t) : t.mentions content.lower := Text.mentions_lower_iff.2 (h t ht)
  constructor
  case title =>
    intro ht
    simp [predicate, Predicate.holds, hmentions _ ht]
  case body =>
    intro ht
    simp [predicate, Predicate.holds, hmentions _ ht]
  case author =>
    intro ht
    simp [predicate, Predicate.holds, Snapshot.userMentions, hmentions _ ht]

theorem lower_of_foundThrough {ctx : Context} {content : Text} {p : Text → Prop}
    (h : ∀ issue, FoundThrough ctx content p issue) {t : Text} (ht : p t) : content.lower <:+: t.lower := by
  obtain ⟨htitle, -⟩ := (h { Issue.blank ctx.now true with title := t }).title ht
  exact Text.mentions_lower_iff.1 htitle

theorem foundThrough_pieces_iff {ctx : Context} {content : Text} :
    (∀ issue, FoundThrough ctx content (content <:+: ·) issue) ↔ content.Settled := by
  rw [Text.settled_iff]
  constructor
  · exact fun h t => lower_of_foundThrough h
  · exact fun h => foundThrough_of_lower h ctx

theorem verbatim_found (ctx : Context) (content : Text) :
    (∀ issue, FoundThrough ctx content content.StandsAlike issue) ∧
    ('Σ' ∉ content → ∀ issue, FoundThrough ctx content (content <:+: ·) issue) ∧
    ((∀ issue, FoundThrough ctx content (content <:+: ·) issue) ↔
      Text.lower ('a' :: content) = 'a' :: content.lower ∧ Text.lower (content ++ ['a']) = content.lower ++ ['a']) := by
  refine ⟨foundThrough_of_lower (fun t => Text.StandsAlike.infix_lower) ctx, fun hsigma => ?_, ?_⟩
  · exact foundThrough_pieces_iff.2 (Text.settled_of_not_mem hsigma)
  · rw [foundThrough_pieces_iff, Text.settled_iff_beside_letter]

def titled (title : Text) : Issue := { Issue.blank (.midnight ⟨2024, 1, 4, by decide⟩) true with title := title }

def bare : Context where
  now := .midnight ⟨2024, 1, 6, by decide⟩

theorem verbatim_found_word :
    'Σ' ∉ "Ο".toList ∧ "Ο".toList <:+: "Η ΟΔΟΣ".toList ∧
      (title.predicate bare "Ο".toList).holds (titled "Η ΟΔΟΣ".toList) ∧
      Text.StandsAlike "ΟΔΟΣ".toList "Η ΟΔΟΣ".toList ∧
      (keyword.predicate bare "ΟΔΟΣ".toList).holds (titled "Η ΟΔΟΣ".toList) := by
  have hsigma : 'Σ' ∉ "Ο".toList := by decide
  have hpiece : "Ο".toList <:+: "Η ΟΔΟΣ".toList := Text.occursIn_iff.1 (by decide)
  have halike : Text.StandsAlike "ΟΔΟΣ".toList "Η ΟΔΟΣ".toList :=
    ⟨"Η ".toList, [], by decide, Text.keepsSigmas_iff.2 (by decide)⟩
  refine ⟨hsigma, hpiece, ?_, halike, ?_⟩
  · exact (((verbatim_found bare _).2.1 hsigma (titled _)).title hpiece).1
  · exact (((verbatim_found bare _).1 (titled _)).title halike).2

theorem sigma_within_word_missed :
    "ΑΣ".toList <:+: (titled "ΑΣΑ".toList).title ∧
      ¬ (title.predicate bare "ΑΣ".toList).holds (titled "ΑΣΑ".toList) := by
  have hpiece : "ΑΣ".toList <:+: "ΑΣΑ".toList := Text.occursIn_iff.1 (by decide)
  exact ⟨hpiece, by decide⟩

end Qualifier

end Triage
