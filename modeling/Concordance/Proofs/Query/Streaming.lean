import Concordance.Proofs.Query.Slicing

/-!
# Tokens one by one

A lexer is one token ahead of what it has given away: behind its place stand the tokens of the text that
is left, and before them the one it holds. Asking for the current token leaves all that as it is, and
advancing takes the first of these tokens away. So, in whatever order the two are called, the answers are
the tokens of the query in order, each given by the calls between two advances, and then nothing.
-/
namespace Concordance.Proofs.Query.Streaming

open Concordance.Query Lexing Slicing

/-! ## Calls -/

inductive Call where
  | current
  | advance
  deriving DecidableEq

def serve (lexer : Lexer) : Call → Option Token × Lexer
  | .current => (lexer.current, lexer)
  | .advance => lexer.advance

def answers (lexer : Lexer) : List Call → List (Option Token)
  | [] => []
  | call :: calls => (serve lexer call).1 :: answers (serve lexer call).2 calls

def after (lexer : Lexer) (calls : List Call) : Lexer :=
  calls.foldl (fun lexer call => (serve lexer call).2) lexer

def taken (calls : List Call) : Nat :=
  calls.count .advance

theorem taken_current (calls : List Call) : taken (.current :: calls) = taken calls :=
  List.count_cons_of_ne (by decide)

theorem taken_advance (calls : List Call) : taken (.advance :: calls) = taken calls + 1 :=
  List.count_cons_self

/-! ## The place of a lexer -/

/-- The lexer stands between two characters of the query, and these tokens are still to be given. -/
structure StandsAt (query : String) (lexer : Lexer) (pending : List Token) : Prop where
  place : ∃ front, query = String.ofList (front ++ lexer.rest) ∧ lexer.position = utf8Length front
  pending_eq : pending = lexer.lookahead.toList ++ tokensOf lexer.rest
  ended : lexer.lookahead = none → lexer.rest = []

variable {query : String} {lexer : Lexer} {pending : List Token}

theorem standsAt_fill {front rest : List Char} (h : query = String.ofList (front ++ rest)) :
    StandsAt query (Lexer.fill rest (utf8Length front)) (tokensOf rest) := by
  cases hr : readToken rest with
  | none =>
    have hfill : Lexer.fill rest (utf8Length front) = ⟨[], utf8Length (front ++ rest), none⟩ := by
      rw [Lexer.fill, hr, utf8Length_append]
    rw [hfill]
    refine ⟨⟨front ++ rest, by rw [List.append_nil, h], rfl⟩, ?_, fun _ => rfl⟩
    rw [tokensOf_eq, hr, tokensOf_nil]
    rfl
  | some p =>
    obtain ⟨t, rest'⟩ := p
    obtain ⟨blank, -, hsplit, -⟩ := lexeme_of_readToken hr
    rw [← List.append_assoc] at hsplit
    have htokens : tokensOf rest = t :: tokensOf rest' := by rw [tokensOf_eq, hr]
    rw [htokens]
    rw [hsplit] at h hr ⊢
    rw [fill_of_readToken hr]
    refine ⟨⟨front ++ (blank ++ t.text.toList), ?_, (utf8Length_append _ _).symm⟩, rfl, fun he => ?_⟩
    · rw [h]
      exact congrArg String.ofList (List.append_assoc _ _ _).symm
    · cases he

theorem standsAt_start (query : String) : StandsAt query (Lexer.start query) (tokenize query) :=
  @standsAt_fill query [] query.toList String.ofList_toList.symm

namespace StandsAt

theorem current_eq (h : StandsAt query lexer pending) : lexer.current = pending.head? := by
  rw [h.pending_eq, Lexer.current]
  cases hl : lexer.lookahead with
  | none => rw [h.ended hl, tokensOf_nil]; rfl
  | some t => rfl

theorem advance (h : StandsAt query lexer pending) :
    StandsAt query lexer.advance.2 pending.tail := by
  obtain ⟨front, hquery, hposition⟩ := h.place
  have htail : pending.tail = tokensOf lexer.rest := by
    rw [h.pending_eq]
    cases hl : lexer.lookahead with
    | none => rw [h.ended hl, tokensOf_nil]; rfl
    | some t => rfl
  rw [htail, Lexer.advance, hposition]
  exact standsAt_fill hquery

/-- The answer to either call is the first of the tokens still to be given. -/
theorem serve_eq (h : StandsAt query lexer pending) (call : Call) :
    (serve lexer call).1 = pending.head? := by
  cases call with
  | current => exact h.current_eq
  | advance => exact h.current_eq

/-- Some calls take as many tokens as there are advances among them. -/
theorem after (h : StandsAt query lexer pending) (calls : List Call) :
    StandsAt query (after lexer calls) (pending.drop (taken calls)) := by
  induction calls generalizing lexer pending with
  | nil => exact h
  | cons call calls ih =>
    cases call with
    | current =>
      rw [taken_current]
      exact ih h
    | advance =>
      rw [taken_advance, ← List.drop_tail]
      exact ih h.advance

theorem isValid (h : StandsAt query lexer pending) : String.Pos.Raw.IsValid query ⟨lexer.position⟩ := by
  obtain ⟨front, hquery, hposition⟩ := h.place
  rw [hposition, hquery]
  exact isValid_utf8Length front lexer.rest

theorem readAt?_eq (h : StandsAt query lexer pending) : readAt? query lexer.position =
    some (lexer.advance.2.current, lexer.advance.2.position) := by
  obtain ⟨front, hquery, hposition⟩ := h.place
  rw [Lexer.advance, hposition, hquery]
  exact readAt?_utf8Length front lexer.rest

end StandsAt

/-- A lexer that has read a token has gone on. -/
theorem position_lt_of_fill {rest : List Char} {position : Nat}
    (h : (Lexer.fill rest position).current ≠ none) :
    position < (Lexer.fill rest position).position := by
  rw [Lexer.fill] at h ⊢
  cases hr : readToken rest with
  | none =>
    rw [hr] at h
    exact absurd rfl h
  | some p =>
    obtain ⟨t, rest'⟩ := p
    have hlt := utf8Length_lt_of_readToken hr
    dsimp only
    omega

theorem answers_eq (h : StandsAt query lexer pending) (calls : List Call) :
    answers lexer calls = (List.range calls.length).map fun k => pending[taken (calls.take k)]? := by
  induction calls generalizing lexer pending with
  | nil => rfl
  | cons call calls ih =>
    rw [answers, List.length_cons, List.range_succ_eq_map, List.map_cons, List.map_map, h.serve_eq,
      List.head?_eq_getElem?]
    refine congrArg _ ?_
    cases call with
    | current =>
      refine (ih h).trans (List.map_congr_left fun k _ => ?_)
      rw [Function.comp_apply, List.take_succ_cons, taken_current]
    | advance =>
      refine (ih h.advance).trans (List.map_congr_left fun k _ => ?_)
      rw [Function.comp_apply, List.take_succ_cons, taken_advance, List.getElem?_tail]

/-- Calls for the current token leave no trace. -/
theorem after_eq_advances (lexer : Lexer) (calls : List Call) :
    after lexer calls = after lexer (List.replicate (taken calls) .advance) := by
  induction calls generalizing lexer with
  | nil => rfl
  | cons call calls ih =>
    cases call with
    | current =>
      rw [taken_current]
      exact ih lexer
    | advance =>
      rw [taken_advance, List.replicate_succ]
      exact ih lexer.advance.2

/-! ## Taking all tokens -/

def remaining (lexer : Lexer) : Nat :=
  lexer.rest.length + lexer.lookahead.toList.length

theorem remaining_fill_le (rest : List Char) (position : Nat) :
    remaining (Lexer.fill rest position) ≤ rest.length := by
  rw [Lexer.fill]
  cases hr : readToken rest with
  | none => exact Nat.zero_le _
  | some p => exact readToken_length hr

def drain (lexer : Lexer) : List Token :=
  match _h : lexer.current with
  | none => []
  | some _ => lexer.advance.1.toList ++ drain lexer.advance.2
termination_by remaining lexer
decreasing_by
  have hlookahead : lexer.lookahead = some _ := _h
  refine Nat.lt_of_le_of_lt (remaining_fill_le lexer.rest lexer.position) ?_
  rw [remaining, hlookahead]
  exact Nat.lt_succ_self _

theorem drain_eq (h : StandsAt query lexer pending) : drain lexer = pending := by
  induction pending generalizing lexer with
  | nil =>
    rw [drain]
    split
    · rfl
    · rename_i t hcurrent
      rw [h.current_eq] at hcurrent
      cases hcurrent
  | cons t pending ih =>
    rw [drain]
    split
    · rename_i hcurrent
      rw [h.current_eq] at hcurrent
      cases hcurrent
    · rw [ih h.advance]
      have hanswer : lexer.advance.1 = some t := h.current_eq
      rw [hanswer]
      rfl

theorem length_tokensOf_le (text : List Char) : (tokensOf text).length ≤ text.length := by
  fun_induction tokensOf text with
  | case1 text hr => exact Nat.zero_le _
  | case2 text t rest hr ih => exact Nat.lt_of_le_of_lt ih (readToken_length hr)

/-! ## The lexer of a query -/

/-- The lexer of a query, called in any order: each call is answered with the token whose number is that of
the advances before it, and with nothing once there are no more. Asking for the current token gives what
advancing gives next, and only advances count for the lexer's state. Wherever it stands there is a place
between two characters, from which reading by bytes finds what the lexer finds, so that no slice fails; and
it goes on whenever it reads a token. The loop that takes all tokens ends with those of the query, which
are at most as many as its characters. -/
theorem lexer_gives_tokens (query : String) (calls : List Call) :
    let start := Lexer.start query
    let lexer := after start calls
    answers start calls =
      (List.range calls.length).map (fun k => (tokenize query)[(calls.take k).count .advance]?) ∧
    lexer.current = lexer.advance.1 ∧ lexer.advance.1 = (tokenize query)[calls.count .advance]? ∧
    lexer = after start (List.replicate (calls.count .advance) .advance) ∧
    String.Pos.Raw.IsValid query ⟨lexer.position⟩ ∧
    readAt? query 0 = some (start.current, start.position) ∧
    readAt? query lexer.position = some (lexer.advance.2.current, lexer.advance.2.position) ∧
    (start.current ≠ none → 0 < start.position) ∧
    (lexer.advance.2.current ≠ none → lexer.position < lexer.advance.2.position) ∧
    drain start = tokenize query ∧ (tokenize query).length ≤ query.length := by
  intro start lexer
  have hstart : StandsAt query start (tokenize query) := standsAt_start query
  have hlexer : StandsAt query lexer ((tokenize query).drop (taken calls)) := hstart.after calls
  refine ⟨answers_eq hstart calls, rfl, ?_, after_eq_advances start calls, hlexer.isValid, ?_,
    hlexer.readAt?_eq, position_lt_of_fill, position_lt_of_fill, drain_eq hstart, ?_⟩
  · rw [← List.head?_drop]
    exact hlexer.current_eq
  · have hread := readAt?_utf8Length [] query.toList
    rwa [List.nil_append, String.ofList_toList] at hread
  · rw [← String.length_toList]
    exact length_tokensOf_le query.toList

/-- Characters of two bytes, a parenthesis that ends a word, and calls beyond the end. -/
theorem lexer_gives_accents :
    answers (Lexer.start " año(ñ")
        [.current, .advance, .current, .current, .advance, .advance, .advance] =
      [some (.word "año"), some (.word "año"), some .openParen, some .openParen, some .openParen,
        some (.word "ñ"), none] ∧
    (after (Lexer.start " año(ñ") [.advance]).position = 6 ∧ String.Pos.Raw.IsValid " año(ñ" ⟨6⟩ ∧
    (after (Lexer.start " año(ñ") [.advance]).advance.2.current ≠ none ∧
    6 < (after (Lexer.start " año(ñ") [.advance]).advance.2.position := by
  have htokens : tokenize " año(ñ" = [.word "año", .openParen, .word "ñ"] := by cbv
  have hposition : (after (Lexer.start " año(ñ") [.advance]).position = 6 := by decide
  have hread : (after (Lexer.start " año(ñ") [.advance]).advance.2.current ≠ none := by decide
  have hanswers := (lexer_gives_tokens " año(ñ"
    [.current, .advance, .current, .current, .advance, .advance, .advance]).1
  obtain ⟨-, -, -, -, hvalid, -, -, -, hforward, -⟩ := lexer_gives_tokens " año(ñ" [.advance]
  rw [htokens] at hanswers
  rw [hposition] at hvalid hforward
  exact ⟨hanswers, hposition, hvalid, hread, hforward hread⟩

end Concordance.Proofs.Query.Streaming
