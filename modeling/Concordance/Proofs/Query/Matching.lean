import Concordance.Proofs.Query.Grammar

/-!
# Matching parentheses

Whether parentheses match is a matter of counting: from an opening one, the matching one is the first at
which as many have been closed as opened. The tokens of a query are balanced by derivation, so the
parentheses around a query match.
-/
namespace Concordance.Proofs.Query.Matching

open Concordance.Query Grammar

/-- Every parenthesis among the tokens has its partner there: as many are closed as are opened, and up to
no place more. -/
structure Balanced (tokens : List Token) : Prop where
  closed : tokens.count .closeParen = tokens.count .openParen
  nested : ∀ n, (tokens.take n).count .closeParen ≤ (tokens.take n).count .openParen

theorem balanced_nil : Balanced [] where
  closed := rfl
  nested n := by simp

/-- Words, operators and negations open and close nothing. -/
theorem balanced_singleton {t : Token} (ho : t ≠ .openParen) (hc : t ≠ .closeParen) : Balanced [t] where
  closed := by simp [ho, hc]
  nested n := by cases n <;> simp [ho, hc]

theorem Balanced.append {us vs : List Token} (hu : Balanced us) (hv : Balanced vs) :
    Balanced (us ++ vs) where
  closed := by rw [List.count_append, List.count_append, hu.closed, hv.closed]
  nested n := by
    rw [List.take_append, List.count_append, List.count_append]
    exact Nat.add_le_add (hu.nested n) (hv.nested _)

theorem Balanced.cons {t : Token} {us : List Token} (ho : t ≠ .openParen) (hc : t ≠ .closeParen)
    (h : Balanced us) : Balanced (t :: us) :=
  (balanced_singleton ho hc).append h

theorem Balanced.group {us : List Token} (h : Balanced us) :
    Balanced (.openParen :: (us ++ [.closeParen])) where
  closed := by simp [h.closed]
  nested n := by
    cases n with
    | zero => exact Nat.le_refl 0
    | succ n =>
      have hlast : ([Token.closeParen].take (n - us.length)).count .closeParen ≤ 1 :=
        Nat.le_trans ((List.take_sublist _ _).count_le _) (by simp)
      have hnested := h.nested n
      rw [List.take_succ_cons, List.take_append, List.count_cons_self,
        List.count_cons_of_ne (by simp), List.count_append, List.count_append]
      omega

/-! ## Derivations -/

theorem operator_ne_paren (op : Operator) : op.token ≠ .openParen ∧ op.token ≠ .closeParen := by
  cases op <;> simp [Operator.token]

mutual

/-- Parentheses come in pairs around a query, so what stands for a tree is balanced. -/
theorem balanced_operand {us : List Token} {e : Expr} : IsOperand us e → Balanced us
  | .word w => balanced_singleton (by simp) (by simp)
  | .not inner => (balanced_operand inner).cons (by simp) (by simp)
  | .group inner => (balanced_query inner).group

theorem balanced_query {us : List Token} {e : Expr} : IsQuery us e → Balanced us
  | .mk first tail => (balanced_operand first).append (balanced_tail tail)

theorem balanced_tail {left : Expr} {us : List Token} {e : Expr} : IsTail left us e → Balanced us
  | .done left => balanced_nil
  | @IsTail.more op _ _ _ _ _ next tail =>
    ((balanced_operand next).append (balanced_tail tail)).cons (operator_ne_paren op).1
      (operator_ne_paren op).2

end

/-! ## The parenthesis that matches -/

/-- The tokens after an opening parenthesis are those inside it, the parenthesis that matches it, and
the rest. -/
structure Matched (tokens inner rest : List Token) : Prop where
  split : tokens = inner ++ .closeParen :: rest
  balanced : Balanced inner

/-- Of two closing parentheses the later one does not match: at the first, one more is closed than opened. -/
theorem Matched.length_le {tokens us us' rest rest' : List Token} (h : Matched tokens us rest)
    (h' : Matched tokens us' rest') : us'.length ≤ us.length := by
  refine Nat.le_of_not_lt fun hlt => ?_
  have hfront : us'.take (us.length + 1) = us ++ [.closeParen] := by
    have htake : tokens.take (us.length + 1) = us'.take (us.length + 1) := by
      rw [h'.split, List.take_append_of_le_length (by omega)]
    rw [← htake, h.split, ← List.singleton_append, ← List.append_assoc]
    exact List.take_left' (by simp)
  have hnested := h'.balanced.nested (us.length + 1)
  rw [hfront, List.count_append, List.count_append, h.balanced.closed] at hnested
  exact absurd hnested (by simp)

/-- Only one closing parenthesis matches. -/
theorem Matched.rest_eq {tokens us us' rest rest' : List Token} (h : Matched tokens us rest)
    (h' : Matched tokens us' rest') : rest' = rest := by
  have hlength : us'.length = us.length := Nat.le_antisymm (h.length_le h') (h'.length_le h)
  have hsplit : us' ++ .closeParen :: rest' = us ++ .closeParen :: rest := h'.split.symm.trans h.split
  exact (List.cons.inj (List.append_inj_right hsplit hlength)).2

end Concordance.Proofs.Query.Matching
