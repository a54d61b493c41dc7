import Triage.Diagnostic

/-!
Reports: diagnostics shown as labels on the text that they are about. Of several diagnostics with the same start only
the first is shown.
-/

namespace Triage

namespace Report

structure Label where
  kind : Diagnostic.Kind
  message : Text
  start : Nat
  stop : Nat
  deriving DecidableEq, Repr

def charOffset : Text → Nat → Nat
  | [], _ => 0
  | c :: cs, byte => if byte = 0 then 0 else 1 + charOffset cs (byte - c.utf8Size)

/-- A label that would end before its start has no length. -/
def Label.ofDiagnostic (source : Text) (d : Diagnostic) : Label :=
  let start := charOffset source d.span.start
  ⟨d.kind, d.message.toList, start, max start (charOffset source d.span.stop)⟩

def distinctFrom (starts : List Nat) : List Diagnostic → List Diagnostic
  | [] => []
  | d :: ds =>
    if starts.contains d.span.start then distinctFrom starts ds
    else d :: distinctFrom (d.span.start :: starts) ds

def labelsOf (source : Text) (ds : List Diagnostic) : List Label :=
  (distinctFrom [] ds).map (Label.ofDiagnostic source)

end Report

structure Report where
  source : Text
  isError : Bool
  colored : Bool
  labels : List Report.Label
  deriving DecidableEq, Repr

namespace Report

/-- The report on some diagnostics, if there are any. It is about an error if one of them is a syntax fault. -/
def ofDiagnostics? (source : Text) (ds : List Diagnostic) (colored : Bool) : Option Report :=
  match labelsOf source ds with
  | [] => none
  | shown => some ⟨source, ds.any (·.kind == .syntactic), colored, shown⟩

def kind (r : Report) : Diagnostic.Kind := if r.isError then .syntactic else .semantic

def title (r : Report) : Text := if r.isError then "Error:".toList else "Warning:".toList

end Report

end Triage
