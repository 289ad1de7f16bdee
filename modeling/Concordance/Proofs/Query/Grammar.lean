import Concordance.Query.Expr

/-!
# The grammar of queries

```
query    := operand (operator operand)*
operand  := WORD | NOT operand | "(" query ")"
operator := AND | OR
```

A derivation says of a whole list of tokens which tree it stands for. Nothing here mentions a depth or
a place in the list: groups nest because derivations do.
-/
namespace Concordance.Proofs.Query.Grammar

open Concordance.Query

/-- `operator := AND | OR` -/
inductive Operator where
  | and
  | or

def Operator.token : Operator → Token
  | and => .and
  | or => .or

def Operator.combine : Operator → Expr → Expr → Expr
  | and => .and
  | or => .or

mutual

/-- `operand := WORD | NOT operand | "(" query ")"`. A group stands for the tree of its inner query. -/
inductive IsOperand : List Token → Expr → Prop where
  | word (w : String) : IsOperand [.word w] (.word w)
  | not {ts : List Token} {e : Expr} (inner : IsOperand ts e) : IsOperand (.not :: ts) (.not e)
  | group {ts : List Token} {e : Expr} (inner : IsQuery ts e) :
      IsOperand (.openParen :: (ts ++ [.closeParen])) e

/-- `query := operand (operator operand)*` -/
inductive IsQuery : List Token → Expr → Prop where
  | mk {ts us : List Token} {left e : Expr} (first : IsOperand ts left) (tail : IsTail left us e) :
      IsQuery (ts ++ us) e

/-- `(operator operand)*` after operands that stand for `left`. Each operator combines everything
before it with the one operand after it. -/
inductive IsTail : Expr → List Token → Expr → Prop where
  | done (left : Expr) : IsTail left [] left
  | more {op : Operator} {ts us : List Token} {left right e : Expr} (next : IsOperand ts right)
      (tail : IsTail (op.combine left right) us e) : IsTail left (op.token :: (ts ++ us)) e

end

/-- What is left of a query once the tree `left` has been read: a whole query if nothing has. -/
def Continues : Option Expr → List Token → Expr → Prop
  | none => IsQuery
  | some left => IsTail left

/-- An operand on its own is a query. -/
theorem IsOperand.query {ts : List Token} {e : Expr} (h : IsOperand ts e) : IsQuery ts e := by
  simpa using IsQuery.mk h (.done e)

/-- One operator with its operand. -/
theorem IsTail.one (op : Operator) (left : Expr) {ts : List Token} {right : Expr}
    (h : IsOperand ts right) : IsTail left (op.token :: ts) (op.combine left right) := by
  have hone : IsTail left (op.token :: (ts ++ [])) (op.combine left right) := .more h (.done _)
  rwa [List.append_nil] at hone

theorem IsTail.append {left mid e : Expr} {us vs : List Token} :
    IsTail left us mid → IsTail mid vs e → IsTail left (us ++ vs) e
  | .done _, h => h
  | .more next tail, h => by
    rw [List.cons_append, List.append_assoc]
    exact .more next (tail.append h)

/-- What is added to a query takes the whole of it as its left operand. -/
theorem IsQuery.extend {ts us : List Token} {mid e : Expr} (h : IsQuery ts mid)
    (hmore : IsTail mid us e) : IsQuery (ts ++ us) e := by
  obtain ⟨first, tail⟩ := h
  rw [List.append_assoc]
  exact .mk first (tail.append hmore)

/-! ## Words -/

def wordText? : Token → Option String
  | .word w => some w
  | _ => none

@[simp] theorem wordText?_operator (op : Operator) : wordText? op.token = none := by
  cases op <;> rfl

@[simp] theorem terms_combine (op : Operator) (l r : Expr) :
    (op.combine l r).terms = l.terms ++ r.terms := by
  cases op <;> rfl

mutual

/-- A tree has the words of its tokens, in order and as often as they occur. -/
theorem IsOperand.terms {ts : List Token} {e : Expr} :
    IsOperand ts e → e.terms = ts.filterMap wordText?
  | .word w => rfl
  | .not inner => by
    rw [Expr.terms, inner.terms]
    rfl
  | .group inner => by
    rw [inner.terms, List.filterMap_cons_none rfl, List.filterMap_append,
      List.filterMap_cons_none rfl, List.filterMap_nil, List.append_nil]

theorem IsQuery.terms {ts : List Token} {e : Expr} :
    IsQuery ts e → e.terms = ts.filterMap wordText?
  | .mk first tail => by rw [tail.terms, first.terms, List.filterMap_append]

theorem IsTail.terms {ts : List Token} {left e : Expr} :
    IsTail left ts e → e.terms = left.terms ++ ts.filterMap wordText?
  | .done left => by simp
  | .more next tail => by
    rw [tail.terms, terms_combine, next.terms, List.append_assoc, ← List.filterMap_append,
      List.filterMap_cons_none (wordText?_operator _)]

end

end Concordance.Proofs.Query.Grammar
