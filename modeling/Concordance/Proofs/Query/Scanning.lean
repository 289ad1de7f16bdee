import Concordance.Proofs.Query.Parsing
import Concordance.Query.Scan

/-!
# The parser finds the scan's fault

The scan keeps one number where the readers nest, and a mode where they keep a tree. Whatever a reader
does on some tokens, the scan does on the same tokens: where the reader succeeds, the scan goes on after
it from a complete operand, and where it fails, the scan fails alike. So the two agree at every place
in a query and in the end on its fault, or on its having none.
-/
namespace Concordance.Proofs.Query.Scanning

open Concordance.Query Grammar Reading Parsing Scan

/-- What may come next in a chain: everything is open until its first operand has been read. -/
def modeOf : Option Expr → Mode
  | none => .fresh
  | some _ => .complete

def resume (r : Expr × Cursor) : Except Error Unit :=
  run .complete r.2.depth r.2.rest

/-- Where an operand has to come, the scan follows the reader of operands. -/
def OperandScanned (s : Cursor) : Prop :=
  run .need s.depth s.rest = (readOperand s).bind resume

def InsideScanned (s : Cursor) : Prop :=
  ∀ (outer : Nat) (left : Option Expr), s.depth = outer + 1 →
    run (modeOf left) s.depth s.rest = (readInside outer left s).bind resume

theorem map_bind {α β γ : Type} (f : α → β) (g : β → Except Error γ) (result : Except Error α) :
    (result.map f).bind g = result.bind (fun x => g (f x)) := by
  cases result <;> rfl

/-- At the start of a query or group the scan accepts an operand as it would after an operator; only a
closing parenthesis is refused for another reason. -/
theorem run_fresh {t : Token} (ht : t ≠ .closeParen) (depth : Nat) (rest : List Token) :
    run .fresh depth (t :: rest) = run .need depth (t :: rest) := by
  cases t with
  | closeParen => exact absurd rfl ht
  | word w => rfl
  | and => rfl
  | or => rfl
  | not => rfl
  | openParen => rfl

theorem operand_scanned_of_shorter {s : Cursor}
    (ih : ∀ u : Cursor, u.rest.length < s.rest.length → OperandScanned u ∧ InsideScanned u) :
    OperandScanned s := by
  obtain ⟨rest, depth⟩ := s
  rw [OperandScanned, readOperand_eq]
  rcases rest with _ | ⟨t, rest⟩
  · rfl
  cases t with
  | word w => rfl
  | not =>
    dsimp only
    rw [map_bind]
    exact (ih ⟨rest, depth⟩ (Nat.lt_succ_self _)).1
  | openParen => exact (ih ⟨rest, depth + 1⟩ (Nat.lt_succ_self _)).2 depth none rfl
  | and => rfl
  | or => rfl
  | closeParen => rfl

theorem first_scanned {t : Token} {rest : List Token} {depth : Nat}
    (ho : OperandScanned ⟨t :: rest, depth⟩) :
    run .fresh depth (t :: rest) = (readStep none ⟨t :: rest, depth⟩).bind resume := by
  rw [OperandScanned] at ho
  by_cases ht : t = .closeParen
  · subst ht
    rw [readStep_none]
    by_cases hd : depth = 0
    · subst hd
      rfl
    · simp [hd, run, next, Except.bind]
  · have hstep : readStep none ⟨t :: rest, depth⟩ = readOperand ⟨t :: rest, depth⟩ := by
      rw [readStep_none]
      split
      · rename_i hs
        exact absurd (List.cons.inj hs).1 ht
      · rfl
    rw [run_fresh ht, hstep]
    exact ho

theorem next_scanned (l : Expr) {t : Token} {rest : List Token} {depth : Nat}
    (ho : OperandScanned ⟨rest, depth⟩) :
    run .complete depth (t :: rest) = (readStep (some l) ⟨t :: rest, depth⟩).bind resume := by
  rw [OperandScanned] at ho
  rw [readStep_some]
  cases t with
  | closeParen =>
    by_cases hd : depth = 0
    · subst hd
      rfl
    · simp [hd, run, next, Except.bind, resume]
  | and =>
    dsimp only
    rw [map_bind]
    exact ho
  | or =>
    dsimp only
    rw [map_bind]
    exact ho
  | word w => rfl
  | not => rfl
  | openParen => rfl

theorem step_scanned {left : Option Expr} {s : Cursor} (hne : s.rest ≠ [])
    (ho : ∀ u : Cursor, u.rest.length ≤ s.rest.length → OperandScanned u) :
    run (modeOf left) s.depth s.rest = (readStep left s).bind resume := by
  obtain ⟨rest, depth⟩ := s
  obtain ⟨t, rest, rfl⟩ := List.exists_cons_of_ne_nil hne
  cases left with
  | none => exact first_scanned (ho _ (Nat.le_refl _))
  | some l => exact next_scanned l (ho ⟨rest, depth⟩ (Nat.le_succ _))

theorem inside_scanned_of_shorter {s : Cursor}
    (ih : ∀ u : Cursor, u.rest.length < s.rest.length → InsideScanned u)
    (ho : ∀ u : Cursor, u.rest.length ≤ s.rest.length → OperandScanned u) : InsideScanned s := by
  intro outer left hs
  have hne : s.depth ≠ outer := by omega
  by_cases hr : s.rest = []
  · rw [readInside_eq, if_neg hne, if_pos hr, hr, hs]
    cases left <;> rfl
  rw [step_scanned hr ho]
  cases hstep : readStep left s with
  | error err =>
    rw [readInside_eq, if_neg hne, if_neg hr, hstep]
    rfl
  | ok r =>
    obtain ⟨l, t⟩ := r
    rw [readInside_of_readStep hne hstep]
    rcases step_sound (fun u _ => (sound u).1) hstep with ⟨hd, -⟩ | ⟨-, hd, -⟩
    · exact ih t (readStep_length hstep) outer (some l) (hd.trans hs)
    · -- the step closed the group
      obtain rfl : t.depth = outer := by omega
      rw [readInside_closed]

theorem scanned (s : Cursor) : OperandScanned s ∧ InsideScanned s :=
  cursor_induction (fun _ => operand_scanned_of_shorter) (fun _ => inside_scanned_of_shorter) s

/-- Outside all groups, the scan follows a chain to the end of the tokens. -/
theorem chain_scanned {left : Option Expr} {s : Cursor} (hs : s.depth = 0) :
    run (modeOf left) s.depth s.rest = (chain left s).map (fun _ => ()) := by
  induction left, s using chain_induction with
  | ended left s hr =>
    rw [chain_eq, if_pos hr, hr, hs]
    cases left <;> rfl
  | stepped left s hr ih =>
    rw [step_scanned hr (fun u _ => (scanned u).1)]
    cases hstep : readStep left s with
    | error err =>
      rw [chain_eq, if_neg hr, hstep]
      rfl
    | ok r =>
      obtain ⟨l, t⟩ := r
      rw [chain_of_readStep hstep]
      exact ih l t hstep (step_sound_outside hs hstep).1

theorem scan_eq_parseTokens (tokens : List Token) :
    scan tokens = (parseTokens tokens).map (fun _ => ()) :=
  @chain_scanned none ⟨tokens, 0⟩ rfl

theorem scan_eq_error_iff (tokens : List Token) (err : Error) :
    scan tokens = .error err ↔ parseTokens tokens = .error err := by
  rw [scan_eq_parseTokens]
  cases parseTokens tokens <;> simp [Except.map]

/-- A query is refused with exactly the error that the scan of its tokens ends in, and is accepted when
the scan finds none. -/
theorem parse_eq_scan (query : String) :
    (parse query).map (fun _ => ()) = scan (tokenize query) :=
  (scan_eq_parseTokens (tokenize query)).symm

/-- A group that is left open is unbalanced, unless an operand is missing at the end. -/
example : scan [.openParen, .word "a"] = .error .unbalancedParenthesis ∧
    scan [.openParen, .word "a", .and] = .error (.unexpectedToken .operand none) := ⟨rfl, rfl⟩

/-! ## Empty queries -/

theorem next_ne_emptyQuery (mode : Mode) (depth : Nat) (t : Token) :
    next mode depth t ≠ .error .emptyQuery := by
  unfold next
  grind

/-- After a token the scan is fresh only in an open group. -/
theorem depth_pos_of_next {mode mode' : Mode} {depth depth' : Nat} {t : Token}
    (h : next mode depth t = .ok (mode', depth')) (hmode : mode' = .fresh) : 0 < depth' := by
  unfold next at h
  grind

theorem run_ne_emptyQuery {mode : Mode} {depth : Nat} {tokens : List Token}
    (h : tokens = [] → mode = .fresh → 0 < depth) : run mode depth tokens ≠ .error .emptyQuery := by
  induction tokens generalizing mode depth with
  | nil =>
    have hfresh := h rfl
    rw [run]
    unfold finish
    grind
  | cons t rest ih =>
    rw [run]
    cases hstep : next mode depth t with
    | error err =>
      intro he
      obtain rfl := Except.error.inj he
      exact next_ne_emptyQuery mode depth t hstep
    | ok s =>
      obtain ⟨mode', depth'⟩ := s
      exact ih fun _ => depth_pos_of_next hstep

theorem parseTokens_eq_emptyQuery_iff (tokens : List Token) :
    parseTokens tokens = .error .emptyQuery ↔ tokens = [] := by
  rw [← scan_eq_error_iff]
  cases tokens with
  | nil => exact iff_of_true rfl rfl
  | cons t rest =>
    exact iff_of_false (run_ne_emptyQuery fun he => absurd he (List.cons_ne_nil t rest))
      (List.cons_ne_nil t rest)

end Concordance.Proofs.Query.Scanning
