import Triage.Comparison
import Triage.Milestone.Reference
import Triage.Qualifier
import Triage.SortKey

namespace Triage

inductive SemanticFault where
  | unknownQualifier (name : Text)
  | invalidContent (qualifier : Qualifier) (content : Text)
  | unknownSortKey (key : Text)
  deriving DecidableEq, Repr

def SemanticFault.message : SemanticFault → String
  | .unknownQualifier name => "Unknown qualifier '" ++ String.ofList name ++ "'"
  | .invalidContent qualifier content =>
    "'" ++ String.ofList qualifier.name ++ "' expects " ++ qualifier.contentType.describe ++ ", found '" ++
      String.ofList content ++ "'"
  | .unknownSortKey key =>
    "Unknown sort key '" ++ String.ofList key ++ "', expected one of " ++ Vocabulary.listing SortField

def SortKey.parse (content : Text) : Except SemanticFault (List SortKey) :=
  (SortKey.readAll content).mapError .unknownSortKey

def ContentType.accepts (content : Text) : ContentType → Bool
  | .integer => (readInteger? content).isSome
  | .integerComparison => (Comparison.read? readInteger? content).isSome
  | .dateComparison => (DateCondition.read? content).isSome
  | .state => (Vocabulary.read? content : Option State).isSome
  | .nature => (Vocabulary.read? content : Option Nature).isSome
  | .aspect => (Vocabulary.read? content : Option Aspect).isSome
  | .attribute => (Vocabulary.read? content : Option Attribute).isSome
  | .milestone => !Milestone.isMalformedReference content
  | .sortKeys | .identifier | .text => true

namespace Qualifier

def check (q : Qualifier) (content : Text) : Except SemanticFault Unit :=
  match q.contentType with
  | .sortKeys => (SortKey.parse content).map fun _ => ()
  | expected => if expected.accepts content then .ok () else .error (.invalidContent q content)

def validate (name content : Text) : Except SemanticFault Qualifier :=
  match ofName? name with
  | none => .error (.unknownQualifier name)
  | some q => (q.check content).map fun _ => q

end Qualifier

end Triage
