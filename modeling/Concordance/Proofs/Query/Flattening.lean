import Concordance.Proofs.Query.Parsing

/-!
# A tree has the tokens of its query

Read from left to right, with each operator between its operands, a tree gives back the tokens it was
parsed from, except for the parentheses. So parsing loses no word and no operator, makes none, and moves
none: the words of the tree are those of the query in the same order, and it has a node for each of the
query's keywords.
-/
namespace Concordance.Proofs.Query.Flattening

open Concordance.Query Grammar Parsing

/-! ## Trees from left to right -/

def isParen (t : Token) : Bool :=
  t == .openParen || t == .closeParen

/-- The words and operators of a tree as they stand in a query for it. -/
def flatten : Expr → List Token
  | .word w => [.word w]
  | .not e => .not :: flatten e
  | .and l r => flatten l ++ .and :: flatten r
  | .or l r => flatten l ++ .or :: flatten r

theorem flatten_combine (op : Operator) (l r : Expr) :
    flatten (op.combine l r) = flatten l ++ op.token :: flatten r := by
  cases op <;> rfl

theorem isParen_operator (op : Operator) : isParen op.token = false := by
  cases op <;> rfl

def nodes (keyword : Token) : Expr → Nat
  | .word _ => 0
  | .not e => nodes keyword e + if .not = keyword then 1 else 0
  | .and l r => nodes keyword l + nodes keyword r + if .and = keyword then 1 else 0
  | .or l r => nodes keyword l + nodes keyword r + if .or = keyword then 1 else 0

theorem count_flatten {keyword : Token} (hk : ∀ w, keyword ≠ .word w) (e : Expr) :
    (flatten e).count keyword = nodes keyword e := by
  induction e with
  | word w => exact List.count_eq_zero_of_not_mem fun h => hk w (List.mem_singleton.mp h)
  | not e ih =>
    rw [flatten, List.count_cons, ih, nodes]
    simp only [beq_iff_eq]
  | and l r ihl ihr =>
    rw [flatten, List.count_append, List.count_cons, ihl, ihr, nodes, Nat.add_assoc]
    simp only [beq_iff_eq]
  | or l r ihl ihr =>
    rw [flatten, List.count_append, List.count_cons, ihl, ihr, nodes, Nat.add_assoc]
    simp only [beq_iff_eq]

/-! ## Derivations -/

mutual

/-- What stands for a tree is its words and operators, with parentheses among them. -/
theorem flatten_operand {ts : List Token} {e : Expr} :
    IsOperand ts e → flatten e = ts.filter (fun t => !isParen t)
  | .word w => rfl
  | .not inner => by
    rw [flatten, flatten_operand inner]
    rfl
  | .group inner => by
    rw [flatten_query inner, List.filter_cons_of_neg (by decide), List.filter_append,
      List.filter_cons_of_neg (by decide), List.filter_nil, List.append_nil]

theorem flatten_query {ts : List Token} {e : Expr} :
    IsQuery ts e → flatten e = ts.filter (fun t => !isParen t)
  | .mk first tail => by rw [flatten_tail tail, flatten_operand first, List.filter_append]

theorem flatten_tail {ts : List Token} {left e : Expr} :
    IsTail left ts e → flatten e = flatten left ++ ts.filter (fun t => !isParen t)
  | .done left => by rw [List.filter_nil, List.append_nil]
  | @IsTail.more op _ _ _ _ _ next tail => by
    have hop : (!isParen op.token) = true := by rw [isParen_operator]; rfl
    rw [List.filter_cons_of_pos (p := fun t => !isParen t) hop, flatten_tail tail, flatten_combine,
      flatten_operand next, List.filter_append, List.append_assoc, List.cons_append]

end

/-! ## Parsing -/

theorem count_filter_not_isParen {keyword : Token} (hk : isParen keyword = false) (ts : List Token) :
    (ts.filter fun t => !isParen t).count keyword = ts.count keyword :=
  List.count_filter (by rw [hk]; rfl)

/-- The tree of a query, read from left to right, is the query without its parentheses. Hence its words
are the words among the query's tokens, in the same order and as often as they occur, and its negations,
conjunctions and disjunctions are as many as the query's `NOT`, `AND` and `OR`. -/
theorem parse_keeps_tokens {query : String} {e : Expr} (h : parse query = .ok e) :
    flatten e = (tokenize query).filter (fun t => !isParen t) ∧
    e.terms = (tokenize query).filterMap wordText? ∧
    nodes .and e = (tokenize query).count .and ∧
    nodes .or e = (tokenize query).count .or ∧
    nodes .not e = (tokenize query).count .not := by
  have hq : IsQuery (tokenize query) e := (parseTokens_eq_ok_iff _ _).mp h
  have hflat := flatten_query hq
  have hcount : ∀ keyword : Token, (∀ w, keyword ≠ .word w) → isParen keyword = false →
      nodes keyword e = (tokenize query).count keyword := by
    intro keyword hword hparen
    rw [← count_flatten hword, hflat, count_filter_not_isParen hparen]
  exact ⟨hflat, hq.terms, hcount .and nofun rfl, hcount .or nofun rfl, hcount .not nofun rfl⟩

/-- A word that occurs twice, once under two negations, is kept twice. -/
theorem parse_keeps_repeated :
    let e : Expr := .or (.and (.word "b") (.not (.not (.or (.word "a") (.word "b"))))) (.word "c")
    parse "b AND NOT(NOT (a OR (b))) OR c" = .ok e ∧
      e.terms = (tokenize "b AND NOT(NOT (a OR (b))) OR c").filterMap wordText? ∧
      nodes .not e = (tokenize "b AND NOT(NOT (a OR (b))) OR c").count .not ∧
      e.terms = ["b", "a", "b", "c"] ∧ nodes .not e = 2 := by
  intro e
  have h : parse "b AND NOT(NOT (a OR (b))) OR c" = .ok e := by cbv
  obtain ⟨-, hterms, -, -, hnot⟩ := parse_keeps_tokens h
  exact ⟨h, hterms, hnot, rfl, rfl⟩

end Concordance.Proofs.Query.Flattening
