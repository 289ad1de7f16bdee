import Concordance.Query.Token

/-!
Query expressions: the trees queries are read into, their canonical rendering, and their words.
-/
namespace Concordance.Query

inductive Expr where
  | word (text : String)
  | not (operand : Expr)
  | and (left right : Expr)
  | or (left right : Expr)
  deriving DecidableEq, Repr, Inhabited

namespace Expr

/-- The canonical text of an expression. Every operator brings its own parentheses, so the text reads
back as the same tree although the operators have no precedence. -/
def render : Expr → String
  | word w => w
  | not e => "NOT (" ++ e.render ++ ")"
  | and l r => "(" ++ l.render ++ " AND " ++ r.render ++ ")"
  | or l r => "(" ++ l.render ++ " OR " ++ r.render ++ ")"

/-- The words of an expression from left to right, repetitions included. -/
def terms : Expr → List String
  | word w => [w]
  | not e => e.terms
  | and l r => l.terms ++ r.terms
  | or l r => l.terms ++ r.terms

/-- Whether the expression is true when `holds` says which words are. -/
def holds (truth : String → Prop) : Expr → Prop
  | word w => truth w
  | not e => ¬ e.holds truth
  | and l r => l.holds truth ∧ r.holds truth
  | or l r => l.holds truth ∨ r.holds truth

end Expr

end Concordance.Query
