import Concordance.Proofs.Query.Scanning
import Concordance.Proofs.Query.Spacing

/-!
# Where a query becomes hopeless

From every state that the scan passes through some tokens lead to the end of a query: an operand, if one
is missing, and a parenthesis for each open group. So tokens that the scan has passed can always be
completed, whereas after a token that it stops at nothing helps. An unexpected token is therefore the
first one with which no query goes on, and an unexpected end only asks for more.
-/
namespace Concordance.Proofs.Query.Prefixes

open Concordance.Query Grammar Lexing Parsing Scan Scanning Spacing

def Viable (tokens : List Token) : Prop :=
  ∃ (more : List Token) (query : String) (e : Expr),
    tokenize query = tokens ++ more ∧ parse query = .ok e

/-- The scan takes some tokens from one state to another without finding a fault. -/
inductive Passes : Mode → Nat → List Token → Mode → Nat → Prop where
  | nil (mode : Mode) (depth : Nat) : Passes mode depth [] mode depth
  | cons {mode mode' mode'' : Mode} {depth depth' depth'' : Nat} {t : Token} {rest : List Token}
      (first : next mode depth t = .ok (mode', depth')) (tail : Passes mode' depth' rest mode'' depth'') :
      Passes mode depth (t :: rest) mode'' depth''

theorem run_of_passes {mode mode' : Mode} {depth depth' : Nat} {tokens : List Token}
    (h : Passes mode depth tokens mode' depth') (rest : List Token) :
    run mode depth (tokens ++ rest) = run mode' depth' rest := by
  induction h with
  | nil mode depth => rfl
  | cons first tail ih =>
    rw [List.cons_append, run, first]
    exact ih

/-! ## Faults -/

/-- A scan that fails has passed all tokens before the one it stops at, or all there are. -/
theorem passes_to_fault {mode : Mode} {depth : Nat} {tokens : List Token} {err : Error}
    (h : run mode depth tokens = .error err) :
    (∃ pre t post mode' depth', tokens = pre ++ t :: post ∧ Passes mode depth pre mode' depth' ∧
      next mode' depth' t = .error err) ∨
    ∃ mode' depth', Passes mode depth tokens mode' depth' ∧ finish mode' depth' = .error err := by
  induction tokens generalizing mode depth with
  | nil => exact Or.inr ⟨mode, depth, .nil mode depth, h⟩
  | cons t rest ih =>
    rw [run] at h
    cases hstep : next mode depth t with
    | error err' =>
      rw [hstep] at h
      obtain rfl := Except.error.inj h
      exact Or.inl ⟨[], t, rest, mode, depth, rfl, .nil mode depth, hstep⟩
    | ok s =>
      obtain ⟨mode₁, depth₁⟩ := s
      rw [hstep] at h
      rcases ih h with ⟨pre, u, post, mode', depth', rfl, hpass, hfault⟩ | ⟨mode', depth', hpass, hend⟩
      · exact Or.inl ⟨t :: pre, u, post, mode', depth', rfl, .cons hstep hpass, hfault⟩
      · exact Or.inr ⟨mode', depth', .cons hstep hpass, hend⟩

theorem found_of_next {mode : Mode} {depth : Nat} {t : Token} {expected : Expected}
    {found : Option Token} (h : next mode depth t = .error (.unexpectedToken expected found)) :
    found = some t := by
  unfold next at h
  grind

theorem found_of_finish {mode : Mode} {depth : Nat} {expected : Expected} {found : Option Token}
    (h : finish mode depth = .error (.unexpectedToken expected found)) : found = none := by
  unfold finish at h
  grind

/-! ## Completions -/

def completion : Mode → Nat → List Token
  | .complete, depth => List.replicate depth .closeParen
  | _, depth => .word "a" :: List.replicate depth .closeParen

theorem run_closing (depth : Nat) :
    run .complete depth (List.replicate depth .closeParen) = .ok () := by
  induction depth with
  | zero => rfl
  | succ depth ih => exact ih

theorem run_completion (mode : Mode) (depth : Nat) :
    run mode depth (completion mode depth) = .ok () := by
  cases mode with
  | fresh => exact run_closing depth
  | need => exact run_closing depth
  | complete => exact run_closing depth

theorem lexeme_of_mem_completion {mode : Mode} {depth : Nat} {t : Token}
    (h : t ∈ completion mode depth) : Lexeme t := by
  have hclose : ∀ u ∈ List.replicate depth Token.closeParen, Lexeme u := by
    intro u hu
    rw [List.eq_of_mem_replicate hu]
    trivial
  have hword : Lexeme (.word "a") := plainWord_of_all (by decide) (by decide) (by decide)
  cases mode with
  | fresh => exact List.forall_mem_cons.mpr ⟨hword, hclose⟩ t h
  | need => exact List.forall_mem_cons.mpr ⟨hword, hclose⟩ t h
  | complete => exact hclose t h

/-! ## Prefixes of queries -/

theorem scan_of_isQuery {tokens : List Token} {e : Expr} (h : IsQuery tokens e) :
    scan tokens = .ok () := by
  rw [scan_eq_parseTokens, (parseTokens_eq_ok_iff tokens e).mpr h]
  rfl

theorem viable_of_passes {tokens : List Token} {mode : Mode} {depth : Nat}
    (hlex : ∀ t ∈ tokens, Lexeme t) (h : Passes .fresh 0 tokens mode depth) : Viable tokens := by
  have hall : ∀ t ∈ tokens ++ completion mode depth, Lexeme t :=
    List.forall_mem_append.mpr ⟨hlex, fun _ => lexeme_of_mem_completion⟩
  obtain ⟨query, hquery⟩ := exists_query hall
  have hscan : scan (tokenize query) = .ok () := by
    rw [hquery, scan, run_of_passes h]
    exact run_completion mode depth
  rw [scan_eq_parseTokens] at hscan
  obtain ⟨e, he, -⟩ := Reading.map_eq_ok hscan
  exact ⟨completion mode depth, query, e, hquery, he⟩

/-- No tokens after one that the scan stops at make a query. -/
theorem not_isQuery_of_fault {pre : List Token} {t : Token} {mode : Mode} {depth : Nat} {err : Error}
    (h : Passes .fresh 0 pre mode depth) (hfault : next mode depth t = .error err)
    (more : List Token) (e : Expr) : ¬ IsQuery (pre ++ t :: more) e := by
  intro hquery
  have hscan := scan_of_isQuery hquery
  rw [scan, run_of_passes h, run, hfault] at hscan
  cases hscan

/-- An unexpected token is the first one with which a query becomes hopeless: what stands before it is
the beginning of some accepted query, and no tokens after it make one. When the end of a query is
unexpected, the query is the beginning of an accepted one and not accepted itself. -/
theorem unexpected_at_first_hopeless {query : String} {expected : Expected} {found : Option Token}
    (h : parse query = .error (.unexpectedToken expected found)) :
    (∀ t, found = some t → ∃ pre post : List Token, tokenize query = pre ++ [t] ++ post ∧
      Viable pre ∧ ∀ (more : List Token) (e : Expr), ¬ IsQuery (pre ++ [t] ++ more) e) ∧
    (found = none → Viable (tokenize query) ∧ ∀ e : Expr, ¬ IsQuery (tokenize query) e) := by
  have hlex : ∀ u ∈ tokenize query, Lexeme u := fun u hu => lexeme_of_mem_tokensOf hu
  have hscan : scan (tokenize query) = .error (.unexpectedToken expected found) := by
    rw [scan_eq_parseTokens, ← parse, h]
    rfl
  rcases passes_to_fault hscan with ⟨pre, u, post, mode, depth, hsplit, hpass, hfault⟩ |
    ⟨mode, depth, hpass, hend⟩
  · obtain rfl := found_of_next hfault
    refine ⟨fun t ht => ?_, fun hnone => by cases hnone⟩
    obtain rfl := Option.some.inj ht
    rw [hsplit, List.forall_mem_append] at hlex
    obtain ⟨hpre, -⟩ := hlex
    refine ⟨pre, post, ?_, viable_of_passes hpre hpass, fun more e => ?_⟩
    · rw [hsplit, List.append_assoc, List.singleton_append]
    · rw [List.append_assoc, List.singleton_append]
      exact not_isQuery_of_fault hpass hfault more e
  · obtain rfl := found_of_finish hend
    constructor
    · intro t ht
      cases ht
    · intro _
      refine ⟨viable_of_passes hlex hpass, fun e he => ?_⟩
      rw [scan_of_isQuery he] at hscan
      cases hscan

/-- A second operand in a group, and an end where an operand is missing in one. -/
theorem hopeless_in_groups :
    (parse "(a AND NOT(b) c) OR d" = .error (.unexpectedToken .operator (some (.word "c"))) ∧
      ∃ pre post : List Token, tokenize "(a AND NOT(b) c) OR d" = pre ++ [.word "c"] ++ post ∧
        Viable pre ∧ ∀ (more : List Token) (e : Expr), ¬ IsQuery (pre ++ [.word "c"] ++ more) e) ∧
    parse "a AND ((b) OR" = .error (.unexpectedToken .operand none) ∧
      Viable (tokenize "a AND ((b) OR") ∧ ∀ e : Expr, ¬ IsQuery (tokenize "a AND ((b) OR") e := by
  have hword : parse "(a AND NOT(b) c) OR d" =
      .error (.unexpectedToken .operator (some (.word "c"))) := by cbv
  have hend : parse "a AND ((b) OR" = .error (.unexpectedToken .operand none) := by cbv
  exact ⟨⟨hword, (unexpected_at_first_hopeless hword).1 _ rfl⟩, hend,
    (unexpected_at_first_hopeless hend).2 rfl⟩

end Concordance.Proofs.Query.Prefixes
