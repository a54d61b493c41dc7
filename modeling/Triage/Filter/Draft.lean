import Triage.Filter.Printer

/-!
Reading tokens as a filter. A draft is what has been read so far: the open parentheses with what stands before each of
them, the part of the filter that is being read, and what may come next. Each token takes a draft to the next one or
shows that no filter begins this way.
-/

namespace Triage

inductive SyntaxFault where
  | tooLong
  | tooDeep
  | expectedTerm
  | unexpected (lexeme : Text)
  | lexical (cause : LexicalFault)
  | expectedClose
  | expectedColon (name : Text)
  | expectedContent (name : Text)
  deriving DecidableEq, Repr

def SyntaxFault.message : SyntaxFault → String
  | .tooLong => "Filter is too long"
  | .tooDeep => "Filter is nested too deeply"
  | .expectedTerm => "Expected a filter term"
  | .unexpected lexeme => "Unexpected '" ++ String.ofList lexeme ++ "'"
  | .lexical cause => cause.message
  | .expectedClose => "Expected ')'"
  | .expectedColon name => "Expected ':' after '" ++ String.ofList name ++ "'"
  | .expectedContent name => "Expected content after '" ++ String.ofList name ++ ":'"

structure Misreading where
  fault : SyntaxFault
  token : Token
  deriving DecidableEq, Repr

structure Reading where
  name : Text
  content : Text
  first : Token
  last : Token
  deriving DecidableEq, Repr

namespace Filter

structure Level where
  /-- What stands before the last `or`. -/
  alternatives : Option Filter := none
  /-- What has been read since then. -/
  conjuncts : Option Filter := none
  negations : Nat := 0
  deriving DecidableEq, Repr

namespace Level

def negate : Nat → Filter → Filter
  | 0, f => f
  | n + 1, f => .neg (negate n f)

def place (l : Level) (f : Filter) : Level :=
  let term := negate l.negations f
  { l with
    conjuncts := some (match l.conjuncts with | some before => .conj before term | none => term)
    negations := 0 }

def result? (l : Level) : Option Filter :=
  l.conjuncts.map fun last =>
    match l.alternatives with
    | some before => .disj before last
    | none => last

def alternative (l : Level) : Level := { alternatives := l.result? }

end Level

inductive Need where
  | term
  | nothing
  | colon (name : Token)
  | content (name colon : Token)
  deriving DecidableEq, Repr

structure Draft where
  /-- The levels around the innermost one, from the inside out. -/
  outer : List Level := []
  level : Level := {}
  readings : List Reading := []
  need : Need := .term
  deriving DecidableEq, Repr

/-- How many parentheses and negations may surround a token. -/
def maxDepth : Nat := 64

def maxTokens : Nat := 1024

namespace Draft

def depth (d : Draft) : Nat :=
  d.level.negations + d.outer.foldr (fun l around => l.negations + 1 + around) 0

def addTerm (d : Draft) (name content : Text) (first last : Token) : Draft :=
  { d with
    level := d.level.place (.term name content)
    readings := d.readings ++ [⟨name, content, first, last⟩]
    need := .nothing }

def beginTerm? (d : Draft) (t : Token) : Option Draft :=
  match t.kind with
  | .leftParen => some { d with outer := d.level :: d.outer, level := {}, need := .term }
  | .negation => some { d with level := { d.level with negations := d.level.negations + 1 }, need := .term }
  | .name => some { d with need := .colon t }
  | .content _ => some (d.addTerm keywordName t.text t t)
  | _ => none

def close? (d : Draft) : Option Draft :=
  match d.outer, d.level.result? with
  | l :: ls, some f => some { d with outer := ls, level := l.place f, need := .nothing }
  | _, _ => none

/-- The draft after a token that follows a whole term and begins none. -/
def followTerm? (d : Draft) (t : Token) : Option Draft :=
  match t.kind with
  | .conjunction => some { d with need := .term }
  | .disjunction => some { d with level := d.level.alternative, need := .term }
  | .rightParen => d.close?
  | _ => none

/-- The draft after a token, if there are filters that begin this way, however deep. -/
def step? (d : Draft) (t : Token) : Option Draft :=
  match d.need with
  | .term => d.beginTerm? t
  | .nothing => (d.beginTerm? t).or (d.followTerm? t)
  | .colon name => if t.kind = .colon then some { d with need := .content name t } else none
  | .content name colon =>
    if t.kind.isContent ∧ t.span.start = colon.span.stop then some (d.addTerm name.lexeme t.text name t)
    else none

def next? (d : Draft) (t : Token) : Option Draft := if maxDepth < d.depth then none else d.step? t

def complete? (d : Draft) : Option Filter :=
  if d.need = .nothing ∧ d.outer = [] then d.level.result? else none

def refuse (t : Token) : SyntaxFault :=
  match t.kind with
  | .fault cause => .lexical cause
  | .finish => .expectedTerm
  | _ => .unexpected t.lexeme

/-- What is wrong with a token that leads to no draft. Missing content is shown at the colon before it. -/
def blame (d : Draft) (t : Token) : Misreading :=
  if maxDepth < d.depth then ⟨.tooDeep, t⟩
  else
    match d.need with
    | .term => ⟨refuse t, t⟩
    | .nothing => ⟨if d.outer = [] then refuse t else .expectedClose, t⟩
    | .colon name => ⟨.expectedColon name.lexeme, t⟩
    | .content name colon =>
      match t.kind with
      | .fault cause => ⟨.lexical cause, t⟩
      | _ => ⟨.expectedContent name.lexeme, colon⟩

end Draft

structure Outcome where
  readings : List Reading
  result : Except Misreading Filter

def Draft.read (finish : Token) (d : Draft) : List Token → Outcome
  | [] =>
    match d.complete? with
    | some f => ⟨d.readings, .ok f⟩
    | none => ⟨d.readings, .error (d.blame finish)⟩
  | t :: ts =>
    match d.next? t with
    | some next => next.read finish ts
    | none => ⟨d.readings, .error (d.blame t)⟩

/-- Reads a text. No text at all is the empty filter; one token too many is refused before any other is read. -/
def read (source : Text) : Outcome :=
  let tokens := Token.scan source
  if tokens = [] then ⟨[], .ok .everything⟩
  else
    match tokens[maxTokens]? with
    | some t => ⟨[], .error ⟨.tooLong, t⟩⟩
    | none => Draft.read (Token.finish source) {} tokens

end Filter

end Triage
