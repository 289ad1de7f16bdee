import Concordance.Proofs.Query.Lexing
import Concordance.Proofs.Query.Parsing

/-!
# Queries composed as text

A query put in parentheses is cut into its own tokens between two parentheses, and a query with more
after it into its own tokens before the others. In the grammar the same tokens then stand for the
composed tree: a group is an operand for the tree inside it, and an operator that is added at the end
combines the whole tree before it with the operand after it.
-/
namespace Concordance.Proofs.Query.Composing

open Concordance.Query Grammar Lexing Parsing

/-! ## Tokens of composed texts -/

theorem tokenize_group (q : String) :
    tokenize ("(" ++ q ++ ")") = .openParen :: (tokenize q ++ [.closeParen]) := by
  have htext : ("(" ++ q ++ ")").toList = '(' :: (q.toList ++ [')']) := by simp
  rw [tokenize, htext, tokensOf_group, tokenize]

theorem tokenize_not_group (q : String) :
    tokenize ("NOT (" ++ q ++ ")") = .not :: .openParen :: (tokenize q ++ [.closeParen]) := by
  have htext : ("NOT (" ++ q ++ ")").toList =
      Token.not.text.toList ++ ' ' :: '(' :: (q.toList ++ [')']) := by simp [Token.text]
  rw [tokenize, htext, tokensOf_not_group, tokenize]

def joined (op : Operator) (q₁ q₂ : String) : String :=
  q₁ ++ (" " ++ op.token.text ++ " (") ++ q₂ ++ ")"

theorem tokenize_joined (op : Operator) (q₁ q₂ : String) : tokenize (joined op q₁ q₂) =
    tokenize q₁ ++ op.token :: .openParen :: (tokenize q₂ ++ [.closeParen]) := by
  have hop : Lexeme op.token := by cases op <;> trivial
  have htext : (joined op q₁ q₂).toList =
      q₁.toList ++ ' ' :: (op.token.text.toList ++ ' ' :: '(' :: (q₂.toList ++ [')'])) := by
    simp [joined]
  rw [tokenize, htext, tokensOf_between hop, tokensOf_group, tokenize, tokenize]

/-! ## Trees of composed texts -/

theorem parse_group {q : String} {e : Expr} (h : parse q = .ok e) :
    parse ("(" ++ q ++ ")") = .ok e := by
  rw [parse, parseTokens_eq_ok_iff] at h ⊢
  rw [tokenize_group]
  exact (IsOperand.group h).query

theorem parse_not_group {q : String} {e : Expr} (h : parse q = .ok e) :
    parse ("NOT (" ++ q ++ ")") = .ok (.not e) := by
  rw [parse, parseTokens_eq_ok_iff] at h ⊢
  rw [tokenize_not_group]
  exact (IsOperand.not (.group h)).query

theorem parse_joined (op : Operator) {q₁ q₂ : String} {e₁ e₂ : Expr} (h₁ : parse q₁ = .ok e₁)
    (h₂ : parse q₂ = .ok e₂) : parse (joined op q₁ q₂) = .ok (op.combine e₁ e₂) := by
  rw [parse, parseTokens_eq_ok_iff] at h₁ h₂ ⊢
  rw [tokenize_joined]
  exact h₁.extend (.one op e₁ (.group h₂))

/-- Whatever two queries are made of, the first in parentheses stands for its tree, after `NOT` for the
negation of it, and before an operator with the second in parentheses for the whole trees combined. -/
theorem parse_composed {q₁ q₂ : String} {e₁ e₂ : Expr} (h₁ : parse q₁ = .ok e₁)
    (h₂ : parse q₂ = .ok e₂) :
    parse ("(" ++ q₁ ++ ")") = .ok e₁ ∧ parse ("NOT (" ++ q₁ ++ ")") = .ok (.not e₁) ∧
      parse (q₁ ++ " AND (" ++ q₂ ++ ")") = .ok (.and e₁ e₂) ∧
      parse (q₁ ++ " OR (" ++ q₂ ++ ")") = .ok (.or e₁ e₂) := by
  have hand : joined .and q₁ q₂ = q₁ ++ " AND (" ++ q₂ ++ ")" := rfl
  have hor : joined .or q₁ q₂ = q₁ ++ " OR (" ++ q₂ ++ ")" := rfl
  rw [← hand, ← hor]
  exact ⟨parse_group h₁, parse_not_group h₁, parse_joined .and h₁ h₂, parse_joined .or h₁ h₂⟩

/-- The operator that is added applies to all of a query that ends in another operator. -/
theorem parse_composed_chain :
    parse "a OR b" = .ok (.or (.word "a") (.word "b")) ∧
    parse "NOT(c) AND d" = .ok (.and (.not (.word "c")) (.word "d")) ∧
    parse "a OR b AND (NOT(c) AND d)" =
      .ok (.and (.or (.word "a") (.word "b")) (.and (.not (.word "c")) (.word "d"))) := by
  have h₁ : parse "a OR b" = .ok (.or (.word "a") (.word "b")) := by cbv
  have h₂ : parse "NOT(c) AND d" = .ok (.and (.not (.word "c")) (.word "d")) := by cbv
  exact ⟨h₁, h₂, (parse_composed h₁ h₂).2.2.1⟩

end Concordance.Proofs.Query.Composing
