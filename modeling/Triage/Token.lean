import Triage.Position

namespace Triage

inductive LexicalFault where
  | unterminatedString
  | controlCharacter
  deriving DecidableEq, Repr

def LexicalFault.message : LexicalFault → String
  | .unterminatedString => "Unterminated string"
  | .controlCharacter => "Unexpected control character"

namespace Token

inductive Kind where
  | leftParen
  | rightParen
  | name
  | colon
  /-- A bare run of characters, or a quoted string with the text between its quotes. -/
  | content (quoted : Option Text)
  | conjunction
  | disjunction
  | negation
  | fault (cause : LexicalFault)
  | finish
  deriving DecidableEq, Repr

def Kind.label : Kind → String
  | .leftParen => "LeftParen"
  | .rightParen => "RightParen"
  | .name => "QualifierName"
  | .colon => "Colon"
  | .content _ => "Content"
  | .conjunction => "And"
  | .disjunction => "Or"
  | .negation => "Not"
  | .fault _ => "Error"
  | .finish => "EOF"

def Kind.startsTerm : Kind → Bool
  | .leftParen | .name | .content _ | .negation => true
  | _ => false

def Kind.isContent : Kind → Bool
  | .content _ => true
  | _ => false

end Token

structure Token where
  kind : Token.Kind
  lexeme : Text
  position : Position
  deriving DecidableEq, Repr

namespace Token

def span (t : Token) : Span := ⟨t.position.offset, t.position.offset + t.lexeme.byteSize⟩

/-- The text between the quotes of a string, or what is wrong with a faulty token. -/
def literal? (t : Token) : Option Text :=
  match t.kind with
  | .content quoted => quoted
  | .fault cause => some cause.message.toList
  | _ => none

def text (t : Token) : Text := t.literal?.getD t.lexeme

def describe (t : Token) : Text :=
  t.kind.label.toList ++ ' ' :: t.lexeme ++
    match t.literal? with
    | some literal => ' ' :: literal
    | none => []

end Token

end Triage
