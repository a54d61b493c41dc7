import Triage.Filter.Draft
import Triage.Qualifier.Validation

/-!
What is reported about a filter's text, and compiling: reading a text as a filter with everything there is to report about
it. Every text compiles; one with a syntax fault becomes the empty filter.
-/

namespace Triage

inductive Diagnostic.Kind where
  | syntactic
  | semantic
  deriving DecidableEq, Repr

def Diagnostic.Kind.label : Diagnostic.Kind → String
  | .syntactic => "Syntax"
  | .semantic => "Semantic"

structure Diagnostic where
  kind : Diagnostic.Kind
  message : String
  span : Span
  line : Nat
  column : Nat
  deriving DecidableEq, Repr

def Diagnostic.describe (d : Diagnostic) : String :=
  d.kind.label ++ " error: " ++ d.message ++ " (" ++ toString d.line ++ ":" ++ toString d.column ++ ")"

def Misreading.diagnostic (m : Misreading) : Diagnostic :=
  ⟨.syntactic, m.fault.message, m.token.span, m.token.position.line, m.token.position.column⟩

def Reading.diagnostic? (r : Reading) : Option Diagnostic :=
  match Qualifier.validate r.name r.content with
  | .ok _ => none
  | .error fault =>
    some ⟨.semantic, fault.message, ⟨r.first.span.start, r.last.span.stop⟩, r.first.position.line,
      r.first.position.column⟩

structure Compilation where
  filter : Filter
  diagnostics : List Diagnostic
  deriving DecidableEq, Repr

namespace Compilation

def hasErrors (c : Compilation) : Bool := !c.diagnostics.isEmpty

def hasSemanticError (c : Compilation) : Bool := c.diagnostics.any (·.kind == .semantic)

end Compilation

/-- Faults of terms are reported in the order of the text; a syntax fault comes last, after those of the terms before
it. -/
def Filter.compile (source : Text) : Compilation :=
  let outcome := Filter.read source
  let semantic := outcome.readings.filterMap Reading.diagnostic?
  match outcome.result with
  | .ok f => ⟨f, semantic⟩
  | .error misreading => ⟨.everything, semantic ++ [misreading.diagnostic]⟩

end Triage
