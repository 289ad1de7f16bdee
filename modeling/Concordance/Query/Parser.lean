import Concordance.Query.Expr
import Concordance.Query.Lexer

/-!
Reading an expression from tokens.

A query is a chain of operands joined by `AND` and `OR`. The operators have no precedence: each one
combines everything before it in its group with the single operand after it. `NOT` applies to the one
operand that follows. The reader keeps the number of open groups, so that a closing parenthesis ends the
innermost one and is refused when there is none.

Every step that succeeds leaves fewer tokens than it found; `Reading` carries that fact, and with it the
recursion ends on every list of tokens.
-/
namespace Concordance.Query

/-- Where a reader stands: the tokens left, and how many groups are open. -/
structure Cursor where
  rest : List Token
  depth : Nat
  deriving Repr

/-- A tree and the place after it, with fewer tokens left than at `s`; or the reason why there is none. -/
abbrev Reading (s : Cursor) :=
  Except Error { r : Expr × Cursor // r.2.rest.length < s.rest.length }

mutual

/-- One operand: a word, `NOT` with its operand, or a group. -/
def operand (s : Cursor) : Reading s :=
  match h : s.rest with
  | .word w :: rest => .ok ⟨(.word w, ⟨rest, s.depth⟩), by simp [h]⟩
  | .not :: rest =>
    match operand ⟨rest, s.depth⟩ with
    | .error e => .error e
    | .ok ⟨(e, t), ht⟩ => .ok ⟨(.not e, t), by simp [h] at ht ⊢; omega⟩
  | .openParen :: rest =>
    match inside s.depth none ⟨rest, s.depth + 1⟩ with
    | .error e => .error e
    | .ok ⟨(e, t), ht⟩ => .ok ⟨(e, t), by simp [h] at ht ⊢; omega⟩
  | found => .error (.unexpectedToken .operand found.head?)
termination_by (s.rest.length, 0)
decreasing_by all_goals exact Prod.Lex.left _ _ (by simp [h])

/-- One step of a chain: its first operand when nothing has been read on its `left` yet, and otherwise an
operator with its right operand, or the parenthesis that ends the group. -/
def step (left : Option Expr) (s : Cursor) : Reading s :=
  match left with
  | none =>
    match s.rest with
    | .closeParen :: _ => .error (if s.depth = 0 then .unbalancedParenthesis else .emptyParenthesis)
    | _ => operand s
  | some l =>
    match h : s.rest with
    | .closeParen :: rest =>
      if s.depth = 0 then .error .unbalancedParenthesis
      else .ok ⟨(l, ⟨rest, s.depth - 1⟩), by simp [h]⟩
    | .and :: rest =>
      match operand ⟨rest, s.depth⟩ with
      | .error e => .error e
      | .ok ⟨(r, t), ht⟩ => .ok ⟨(.and l r, t), by simp [h] at ht ⊢; omega⟩
    | .or :: rest =>
      match operand ⟨rest, s.depth⟩ with
      | .error e => .error e
      | .ok ⟨(r, t), ht⟩ => .ok ⟨(.or l r, t), by simp [h] at ht ⊢; omega⟩
    | found => .error (.unexpectedToken .operator found.head?)
termination_by (s.rest.length, 1)
decreasing_by
  · exact Prod.Lex.right _ (by decide)
  · exact Prod.Lex.left _ _ (by simp [h])
  · exact Prod.Lex.left _ _ (by simp [h])

/-- The inside of a group, from the place after its opening parenthesis to the place after the closing
one, which is where the depth is back at `outer`. -/
def inside (outer : Nat) (left : Option Expr) (s : Cursor) :
    Except Error { r : Expr × Cursor // r.2.rest.length ≤ s.rest.length } :=
  if s.depth = outer then
    match left with
    | some e => .ok ⟨(e, s), Nat.le_refl _⟩
    | none => .error .emptyParenthesis
  else if s.rest = [] then .error .unbalancedParenthesis
  else
    match step left s with
    | .error e => .error e
    | .ok ⟨(e, t), ht⟩ =>
      match inside outer (some e) t with
      | .error e => .error e
      | .ok ⟨r, hr⟩ => .ok ⟨r, Nat.le_trans hr (Nat.le_of_lt ht)⟩
termination_by (s.rest.length, 2)
decreasing_by
  · exact Prod.Lex.right _ (by decide)
  · exact Prod.Lex.left _ _ ht

end

def chain (left : Option Expr) (s : Cursor) : Except Error Expr :=
  if s.rest = [] then
    match left with
    | some e => .ok e
    | none => .error .emptyQuery
  else
    match step left s with
    | .error e => .error e
    | .ok ⟨(e, t), _ht⟩ => chain (some e) t
termination_by s.rest.length
decreasing_by exact _ht

def parseTokens (tokens : List Token) : Except Error Expr :=
  chain none ⟨tokens, 0⟩

def parse (query : String) : Except Error Expr :=
  parseTokens (tokenize query)

end Concordance.Query
