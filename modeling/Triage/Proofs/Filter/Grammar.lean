import Triage.Filter.Draft

namespace Triage.Filter.Grammar

inductive Category where
  | disjunction
  | conjunction
  | unary
  | primary
  deriving DecidableEq, Repr

inductive Derives : Category → List Token → Filter → Nat → Prop
  | conjunction {ts f n} : Derives .conjunction ts f n → Derives .disjunction ts f n
  | or {ts us l r t m n} : Derives .disjunction ts l m → t.kind = .disjunction → Derives .conjunction us r n →
      Derives .disjunction (ts ++ t :: us) (.disj l r) (max m n)
  | unary {ts f n} : Derives .unary ts f n → Derives .conjunction ts f n
  | and {ts us l r t m n} : Derives .conjunction ts l m → t.kind = .conjunction → Derives .unary us r n →
      Derives .conjunction (ts ++ t :: us) (.conj l r) (max m n)
  | adjacent {ts us l r m n} : Derives .conjunction ts l m → Derives .unary us r n →
      Derives .conjunction (ts ++ us) (.conj l r) (max m n)
  | primary {ts f n} : Derives .primary ts f n → Derives .unary ts f n
  | not {t ts f n} : t.kind = .negation → Derives .unary ts f n → Derives .unary (t :: ts) (.neg f) (n + 1)
  | group {o ts c f n} : o.kind = .leftParen → Derives .disjunction ts f n → c.kind = .rightParen →
      Derives .primary (o :: (ts ++ [c])) f (n + 1)
  | qualifier {name colon content} : name.kind = .name → colon.kind = .colon → content.kind.isContent →
      content.span.start = colon.span.stop →
      Derives .primary [name, colon, content] (.term name.lexeme (content.literal?.getD content.lexeme)) 0
  | keyword {content} : content.kind.isContent →
      Derives .primary [content] (.term keywordName (content.literal?.getD content.lexeme)) 0

def Accepts (ts : List Token) (f : Filter) : Prop :=
  (ts = [] ∧ f = .everything) ∨ (ts.length ≤ 1024 ∧ ∃ n, Derives .disjunction ts f n ∧ n ≤ 64)

theorem Derives.ne_nil {c : Category} {ts : List Token} {f : Filter} {n : Nat} (h : Derives c ts f n) : ts ≠ [] := by
  induction h <;> simp_all

end Triage.Filter.Grammar
