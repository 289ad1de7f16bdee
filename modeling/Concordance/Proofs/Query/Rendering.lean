import Concordance.Proofs.Query.Lexing
import Concordance.Proofs.Query.Parsing

/-!
# Reading back what is rendered

The rendering of a tree is cut into the tokens of `spelling`, and these tokens are an operand that stands
for the tree. Trees that were parsed have only words the lexer can produce, and so are covered.
-/
namespace Concordance.Proofs.Query.Rendering

open Concordance.Query Grammar Parsing Lexing

def spelling : Expr → List Token
  | .word w => [.word w]
  | .not e => .not :: .openParen :: (spelling e ++ [.closeParen])
  | .and l r => .openParen :: (spelling l ++ .and :: (spelling r ++ [.closeParen]))
  | .or l r => .openParen :: (spelling l ++ .or :: (spelling r ++ [.closeParen]))

theorem spelling_combine (op : Operator) (l r : Expr) : spelling (op.combine l r) =
    .openParen :: (spelling l ++ op.token :: (spelling r ++ [.closeParen])) := by
  cases op <;> rfl

theorem render_combine (op : Operator) (l r : Expr) : (op.combine l r).render.toList =
    '(' :: ((l.render.toList ++ ' ' :: (op.token.text.toList ++ ' ' :: r.render.toList)) ++ [')']) := by
  cases op <;> simp [Operator.combine, Operator.token, Token.text, Expr.render]

theorem render_not (e : Expr) : (Expr.not e).render.toList =
    Token.not.text.toList ++ ' ' :: '(' :: (e.render.toList ++ [')']) := by
  simp [Token.text, Expr.render]

theorem operand_combine (op : Operator) {l r : Expr} (hl : IsOperand (spelling l) l)
    (hr : IsOperand (spelling r) r) : IsOperand (spelling (op.combine l r)) (op.combine l r) := by
  have h := IsOperand.group (.mk hl (.one op l hr))
  rw [List.append_assoc, List.cons_append] at h
  rwa [spelling_combine]

/-- Every tree is spelled as one operand, since every operator brings its own parentheses. -/
theorem operand_spelling (e : Expr) : IsOperand (spelling e) e := by
  induction e with
  | word w => exact .word w
  | not e ih => exact .not (.group ih.query)
  | and l r ihl ihr => exact operand_combine .and ihl ihr
  | or l r ihl ihr => exact operand_combine .or ihl ihr

/-! ## Lexing a rendering -/

theorem tokensOf_render_combine (op : Operator) {l r : Expr}
    (hl : tokensOf l.render.toList = spelling l) (hr : tokensOf r.render.toList = spelling r) :
    tokensOf (op.combine l r).render.toList = spelling (op.combine l r) := by
  have hop : Lexeme op.token := by cases op <;> trivial
  rw [render_combine, tokensOf_group, tokensOf_between hop, hl, hr, spelling_combine,
    List.append_assoc, List.cons_append]

/-- A tree of words that the lexer can produce is rendered as its spelling. -/
theorem tokensOf_render {e : Expr} (he : ∀ w ∈ e.terms, PlainWord w) :
    tokensOf e.render.toList = spelling e := by
  induction e with
  | word w =>
    have h := @tokensOf_cons (.word w) (he w List.mem_cons_self) [] (fun _ c hc => by cases hc)
    rw [List.append_nil, tokensOf_nil] at h
    exact h
  | not e ih =>
    rw [render_not, tokensOf_not_group, ih he, spelling]
  | and l r ihl ihr =>
    obtain ⟨hl, hr⟩ := List.forall_mem_append.mp he
    exact tokensOf_render_combine .and (ihl hl) (ihr hr)
  | or l r ihl ihr =>
    obtain ⟨hl, hr⟩ := List.forall_mem_append.mp he
    exact tokensOf_render_combine .or (ihl hl) (ihr hr)

/-! ## Parsing a rendering -/

theorem parse_render_of_plain {e : Expr} (he : ∀ w ∈ e.terms, PlainWord w) :
    parse e.render = .ok e := by
  rw [parse, tokenize, tokensOf_render he, parseTokens_eq_ok_iff]
  exact (operand_spelling e).query

/-- The words of a parsed tree are words of the query, which the lexer produced. -/
theorem plain_of_parse {query : String} {e : Expr} (h : parse query = .ok e) :
    ∀ w ∈ e.terms, PlainWord w := by
  intro w hw
  rw [parse, parseTokens_eq_ok_iff] at h
  rw [h.terms] at hw
  obtain ⟨t, ht, hword⟩ := List.mem_filterMap.mp hw
  have hlex : Lexeme t := lexeme_of_mem_tokensOf ht
  cases t with
  | word w' =>
    obtain rfl : w' = w := Option.some.inj hword
    exact hlex
  | and => cases hword
  | or => cases hword
  | not => cases hword
  | openParen => cases hword
  | closeParen => cases hword

/-- A tree of plain words is read back from its rendering. Every parsed tree is one, so that its
rendering stands for it and is rendered to itself. -/
theorem parse_render :
    (∀ e : Expr, (∀ w ∈ e.terms, PlainWord w) → parse e.render = .ok e) ∧
    ∀ (query : String) (e : Expr), parse query = .ok e →
      (∀ w ∈ e.terms, PlainWord w) ∧ parse e.render = .ok e ∧
        (parse e.render).map Expr.render = .ok e.render := by
  refine ⟨fun e he => parse_render_of_plain he, fun query e h => ?_⟩
  have hr : parse e.render = .ok e := parse_render_of_plain (plain_of_parse h)
  refine ⟨plain_of_parse h, hr, ?_⟩
  rw [hr]
  rfl

theorem parse_render_nested :
    let e : Expr := .and (.not (.word "año")) (.or (.word "c++") (.word "and"))
    (∀ w ∈ e.terms, PlainWord w) ∧ parse "(NOT (año) AND (c++ OR and))" = .ok e ∧
      (parse "(NOT (año) AND (c++ OR and))").map Expr.render =
        .ok "(NOT (año) AND (c++ OR and))" := by
  intro e
  have hw : ∀ w ∈ e.terms, PlainWord w := by
    intro w hw
    simp only [e, Expr.terms, List.cons_append, List.nil_append, List.mem_cons, List.not_mem_nil,
      or_false] at hw
    rcases hw with rfl | rfl | rfl
    · exact plainWord_of_all (by decide) (by decide) (by decide)
    · exact plainWord_of_all (by decide) (by decide) (by decide)
    · exact plainWord_of_all (by decide) (by decide) (by decide)
  have h : parse e.render = .ok e := parse_render.1 e hw
  exact ⟨hw, h, (parse_render.2 e.render e h).2.2⟩

end Concordance.Proofs.Query.Rendering
