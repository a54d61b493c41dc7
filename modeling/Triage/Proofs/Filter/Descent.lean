import Triage.Filter.Draft

/-!
Reading by recursive descent: one function for each production of the grammar, with a cursor that each of them moves.
The functions call each other to a depth that the number of tokens gives. That they always return, that a greater depth
changes nothing, and that they read like the machine, is proved apart.
-/

namespace Triage.Filter

structure Cursor where
  taken : Nat := 0
  depth : Nat := 0
  readings : List Reading := []
  deriving DecidableEq, Repr

namespace Cursor

section

variable (tokens : List Token) (c : Cursor)

def peek? : Option Token := tokens[c.taken]?

def atEnd : Bool := (c.peek? tokens).all fun t => t.kind = .finish

def isAt (kinds : Token.Kind → Bool) : Bool := !c.atEnd tokens && (c.peek? tokens).any fun t => kinds t.kind

def advance : Cursor := if c.atEnd tokens then c else { c with taken := c.taken + 1 }

/-- The token that an error is shown at: the next one, or the last one where there is no next. -/
def current : Token := ((c.peek? tokens).or tokens.getLast?).getD (Token.finish [])

def complaint (fault : SyntaxFault) : Misreading := ⟨fault, c.current tokens⟩

def unexpected : Misreading := c.complaint tokens ((c.peek? tokens).elim .expectedTerm Draft.refuse)

def alternative? : Option Cursor :=
  if c.isAt tokens (· = .disjunction) then some (c.advance tokens) else none

def conjunct? : Option Cursor :=
  if c.isAt tokens (· = .conjunction) then some (c.advance tokens)
  else if (c.peek? tokens).any fun t => t.kind.startsTerm then some c
  else none

end

def inward (c : Cursor) : Cursor := { c with depth := c.depth + 1 }

def outward (c : Cursor) : Cursor := { c with depth := c.depth - 1 }

def addTerm (c : Cursor) (name content : Text) (first last : Token) : Cursor :=
  { c with readings := c.readings ++ [⟨name, content, first, last⟩] }

end Cursor

/-- What a production returns, unless it calls deeper than it may: a filter or the reason why there is none, and where
reading stands then. -/
abbrev Returned := Except Misreading Filter × Cursor

namespace Descent

variable (tokens : List Token)

/-- The rest of a qualifier behind its colon, which the content must follow directly. -/
def content (name colon : Token) (c : Cursor) : Returned :=
  match (c.peek? tokens).filter fun t => t.kind.isContent && t.span.start == colon.span.stop with
  | some t => (.ok (.term name.lexeme t.text), (c.advance tokens).addTerm name.lexeme t.text name t)
  | none =>
    if c.isAt tokens (fun kind => kind matches .fault _) then (.error (c.unexpected tokens), c)
    else (.error ⟨.expectedContent name.lexeme, colon⟩, c)

def qualifier (c : Cursor) : Returned :=
  match c.peek? tokens with
  | none => (.error (c.unexpected tokens), c)
  | some name =>
    let afterName := c.advance tokens
    match (afterName.peek? tokens).filter fun t => t.kind = .colon with
    | some colon => content tokens name colon (afterName.advance tokens)
    | none => (.error (afterName.complaint tokens (.expectedColon name.lexeme)), afterName)

@[ext]
structure Readers where
  disjunction : Cursor → Option Returned
  alternatives : Filter → Cursor → Option Returned
  conjunction : Cursor → Option Returned
  conjuncts : Filter → Cursor → Option Returned
  unary : Cursor → Option Returned
  primary : Cursor → Option Returned

section

variable (inner : Readers)

def disjunction (c : Cursor) : Option Returned := do
  let (result, after) ← inner.conjunction c
  match result with
  | .ok left => inner.alternatives left after
  | .error m => some (.error m, after)

def alternatives (left : Filter) (c : Cursor) : Option Returned :=
  match c.alternative? tokens with
  | none => some (.ok left, c)
  | some start => do
    let (result, after) ← inner.conjunction start
    match result with
    | .ok right => inner.alternatives (.disj left right) after
    | .error m => some (.error m, after)

def conjunction (c : Cursor) : Option Returned := do
  let (result, after) ← inner.unary c
  match result with
  | .ok left => inner.conjuncts left after
  | .error m => some (.error m, after)

def conjuncts (left : Filter) (c : Cursor) : Option Returned :=
  match c.conjunct? tokens with
  | none => some (.ok left, c)
  | some start => do
    let (result, after) ← inner.unary start
    match result with
    | .ok right => inner.conjuncts (.conj left right) after
    | .error m => some (.error m, after)

def unary (c : Cursor) : Option Returned :=
  if c.isAt tokens (· = .negation) then
    let start := c.advance tokens
    if maxDepth ≤ start.depth then some (.error (start.complaint tokens .tooDeep), start)
    else do
      let (result, after) ← inner.unary start.inward
      some (result.map .neg, after.outward)
  else inner.primary c

def primary (c : Cursor) : Option Returned :=
  match c.peek? tokens with
  | none => some (.error (c.unexpected tokens), c)
  | some t =>
    match t.kind with
    | .leftParen =>
      let start := c.advance tokens
      if maxDepth ≤ start.depth then some (.error (start.complaint tokens .tooDeep), start)
      else do
        let (result, after) ← inner.disjunction start.inward
        let back := after.outward
        match result with
        | .ok f =>
          if back.isAt tokens (· = .rightParen) then some (.ok f, back.advance tokens)
          else some (.error (back.complaint tokens .expectedClose), back)
        | .error m => some (.error m, back)
    | .name => some (qualifier tokens c)
    | .content _ => some (.ok (.term keywordName t.text), (c.advance tokens).addTerm keywordName t.text t t)
    | _ => some (.error (c.unexpected tokens), c)

end

def Readers.calling (inner : Readers) : Readers where
  disjunction := Descent.disjunction inner
  alternatives := Descent.alternatives tokens inner
  conjunction := Descent.conjunction inner
  conjuncts := Descent.conjuncts tokens inner
  unary := Descent.unary tokens inner
  primary := Descent.primary tokens inner

section

variable (inner : Readers) (left : Filter) (c : Cursor)

theorem calling_alternatives : (inner.calling tokens).alternatives left c = alternatives tokens inner left c := rfl

theorem calling_conjuncts : (inner.calling tokens).conjuncts left c = conjuncts tokens inner left c := rfl

theorem calling_unary : (inner.calling tokens).unary c = unary tokens inner c := rfl

theorem calling_primary : (inner.calling tokens).primary c = primary tokens inner c := rfl

end

/-- The productions where calls go no deeper than a number. What would call deeper never returns. -/
def toDepth : Nat → Readers
  | 0 => ⟨fun _ => none, fun _ _ => none, fun _ => none, fun _ _ => none, fun _ => none, fun _ => none⟩
  | depth + 1 => (toDepth depth).calling tokens

def readers : Readers := toDepth tokens (4 * tokens.length + 4)

def expression (c : Cursor) : Option Returned :=
  match tokens[maxTokens]?.filter fun t => t.kind ≠ .finish with
  | some t => some (.error ⟨.tooLong, t⟩, c)
  | none =>
    if c.atEnd tokens then some (.ok .everything, c)
    else do
      let (result, after) ← (readers tokens).disjunction c
      match result with
      | .ok f =>
        if after.atEnd tokens then some (.ok f, after) else some (.error (after.unexpected tokens), after)
      | .error m => some (.error m, after)

end Descent

def descend (source : Text) : Option Outcome := do
  let (result, after) ← Descent.expression (Token.all source) {}
  some ⟨after.readings, result⟩

end Triage.Filter
