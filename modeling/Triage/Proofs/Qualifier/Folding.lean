import Triage.Proofs.Calendar.Folding
import Triage.Proofs.Qualifier.Names
import Triage.Qualifier.Application
import Triage.Qualifier.Predicate
import Triage.Qualifier.Validation

namespace Triage

open Text

@[simp] theorem Vocabulary.read?_lowerAscii {α : Type} [Vocabulary α] (t : Text) :
    (read? t.lowerAscii : Option α) = read? t :=
  read?_congr (sameWord_lowerAscii t)

@[simp] theorem Milestone.Reference.read_lowerAscii (t : Text) : read t.lowerAscii = read t := by
  rw [read, read, Text.lowerAscii_lowerAscii]

namespace SortKey

theorem read?_eq (t : Text) :
    read? t =
      match dropPrefix? ['-'] t with
      | some name => (Vocabulary.read? name).map (⟨·, true⟩)
      | none => (Vocabulary.read? t).map (⟨·, false⟩) := by
  unfold read?
  split
  · rfl
  · next hyphen => rw [dropPrefix?_eq_none hyphen]

@[simp] theorem read?_lowerAscii (t : Text) : read? t.lowerAscii = read? t := by
  rw [read?_eq, read?_eq, dropPrefix?_lowerAscii (by decide)]
  cases dropPrefix? ['-'] t with
  | none => simp only [Option.map_none, Vocabulary.read?_lowerAscii]
  | some name => simp only [Option.map_some, Vocabulary.read?_lowerAscii]

theorem readParts_lowerAscii (parts : List Text) :
    readParts (parts.map lowerAscii) = (readParts parts).mapError lowerAscii := by
  induction parts with
  | nil => rfl
  | cons part parts ih =>
      rw [List.map_cons, readParts, readParts, read?_lowerAscii]
      cases read? part with
      | none => rfl
      | some key =>
          rw [ih]
          cases readParts parts <;> rfl

theorem readAll_lowerAscii (t : Text) : readAll t.lowerAscii = (readAll t).mapError lowerAscii := by
  have hparts : (t.lowerAscii.fields ',').map trim = ((t.fields ',').map trim).map lowerAscii := by
    rw [fields_lowerAscii (by decide), List.map_map, List.map_map]
    exact List.map_congr_left fun part _ => trim_lowerAscii part
  rw [readAll, readAll, hparts, readParts_lowerAscii]

end SortKey

theorem ContentType.accepts_lowerAscii (content : Text) (type : ContentType) :
    type.accepts content.lowerAscii = type.accepts content := by
  cases type <;> simp [accepts, Milestone.isMalformedReference, Comparison.read?_lowerAscii]

def SemanticFault.lowerAscii : SemanticFault → SemanticFault
  | .unknownQualifier name => .unknownQualifier name.lowerAscii
  | .invalidContent qualifier content => .invalidContent qualifier content.lowerAscii
  | .unknownSortKey key => .unknownSortKey key.lowerAscii

namespace Qualifier

@[simp] theorem ofName?_lowerAscii (name : Text) : ofName? name.lowerAscii = ofName? name :=
  Vocabulary.read?_lowerAscii name

theorem check_lowerAscii (q : Qualifier) (content : Text) :
    q.check content.lowerAscii = (q.check content).mapError SemanticFault.lowerAscii := by
  rw [check, check]
  split
  · rw [SortKey.parse, SortKey.parse, SortKey.readAll_lowerAscii]
    cases SortKey.readAll content <;> rfl
  · rw [ContentType.accepts_lowerAscii]
    split <;> rfl

theorem validate_lowerAscii (name content : Text) :
    validate name.lowerAscii content.lowerAscii = (validate name content).mapError SemanticFault.lowerAscii := by
  rw [validate, validate, ofName?_lowerAscii]
  cases ofName? name with
  | none => rfl
  | some q =>
      simp only [check_lowerAscii]
      cases q.check content <;> rfl

theorem predicate_lowerAscii (ctx : Context) (content : Text) (q : Qualifier) :
    q.predicate ctx content.lowerAscii = q.predicate ctx content := by
  cases q <;> simp [predicate, milestonePredicate, Milestone.resolve, Comparison.read?_lowerAscii]

theorem predicateOf_lowerAscii (ctx : Context) (name content : Text) :
    predicateOf ctx name.lowerAscii content.lowerAscii = predicateOf ctx name content := by
  rw [predicateOf, predicateOf, ofName?_lowerAscii]
  cases ofName? name with
  | none => rfl
  | some q => exact predicate_lowerAscii ctx content q

theorem canApply_lowerAscii (content : Text) (q : Qualifier) : q.canApply content.lowerAscii = q.canApply content := by
  cases q <;> simp [canApply]

end Qualifier

end Triage
