import Concordance.Proofs.Query.Matching
import Concordance.Proofs.Query.Parsing

/-!
# Depth and progress

All readers share one count of open groups, and a group ends where the count is back at what it was before.
That is the parenthesis that matches the one it began with, because every reader leaves the count as it
found it, except for the step that closes a group. Every reader that succeeds has also consumed tokens, so
the loops and the calls among the readers end; how deep they go is said by readers with a budget, which
give nothing when it is used up, or when the count would fall below 0.
-/
namespace Concordance.Proofs.Query.Depth

open Concordance.Query Grammar Reading Parsing Matching

/-! ## What is consumed -/

/-- From one place to the other, at least one token is consumed. -/
def Consumes (s t : Cursor) : Prop :=
  ∃ used, used ≠ [] ∧ s.rest = used ++ t.rest

/-- A step from here ends a group, or is refused if none is open: there is a tree on the left, and a
closing parenthesis comes next. -/
def Closing (left : Option Expr) (s : Cursor) : Prop :=
  left ≠ none ∧ s.rest.head? = some .closeParen

def readGroup (s : Cursor) : Except Error (Expr × Cursor) :=
  readInside s.depth none ⟨s.rest.tail, s.depth + 1⟩

theorem readOperand_group {s : Cursor} (h : s.rest.head? = some .openParen) :
    readOperand s = readGroup s := by
  obtain ⟨rest, depth⟩ := s
  obtain ⟨rest', rfl⟩ := List.head?_eq_some_iff.mp h
  rw [readOperand_eq]
  rfl

theorem ne_nil_of_isOperand {us : List Token} {e : Expr} (h : IsOperand us e) : us ≠ [] := by
  cases h <;> simp

theorem readOperand_consumes {s t : Cursor} {e : Expr} (h : readOperand s = .ok (e, t)) :
    t.depth = s.depth ∧ Consumes s t := by
  obtain ⟨hdepth, us, hus, hop⟩ := (sound s).1 e t h
  exact ⟨hdepth, us, ne_nil_of_isOperand hop, hus⟩

theorem readGroup_consumes {s t : Cursor} {e : Expr} (h : readGroup s = .ok (e, t)) :
    t.depth = s.depth ∧ Consumes s t ∧ ∃ inner, Matched s.rest.tail inner t.rest := by
  obtain ⟨hdepth, us, hus, hquery⟩ := (sound _).2 s.depth none e t rfl h
  have hus' : s.rest.tail = us ++ .closeParen :: t.rest := hus
  refine ⟨hdepth, ?_, us, hus', balanced_query hquery⟩
  -- something is left after the first token, so there is a first token
  cases hrest : s.rest with
  | nil => simp [hrest] at hus'
  | cons first rest =>
    rw [hrest, List.tail_cons] at hus'
    exact ⟨first :: (us ++ [.closeParen]), by simp, by simp [hrest, hus']⟩

theorem readStep_consumes {left : Option Expr} {s t : Cursor} {e : Expr}
    (h : readStep left s = .ok (e, t)) : Consumes s t ∧
      (Closing left s → 0 < s.depth ∧ t.depth = s.depth - 1 ∧ left = some e ∧
        s.rest = .closeParen :: t.rest) ∧
      (¬ Closing left s → t.depth = s.depth) := by
  cases advance_of_readStep h with
  | first hr =>
    obtain ⟨hdepth, hused⟩ := readOperand_consumes hr
    exact ⟨hused, fun hclosing => absurd rfl hclosing.1, fun _ => hdepth⟩
  | @operation op l r rest depth _ hr =>
    obtain ⟨hdepth, used, -, hused⟩ := readOperand_consumes hr
    refine ⟨⟨op.token :: used, by simp, congrArg (op.token :: ·) hused⟩, fun hclosing => ?_, fun _ => hdepth⟩
    exact absurd (Option.some.inj hclosing.2) (operator_ne_paren op).2
  | @close l rest depth =>
    refine ⟨⟨[.closeParen], by simp, rfl⟩, fun _ => ⟨Nat.succ_pos depth, rfl, rfl, rfl⟩, fun hnot => ?_⟩
    exact absurd ⟨by simp, rfl⟩ hnot

/-- The count is looked at before it is lowered. -/
theorem readStep_unbalanced {l : Expr} {s : Cursor} (hclosing : Closing (some l) s) (hs : s.depth = 0) :
    readStep (some l) s = .error .unbalancedParenthesis := by
  obtain ⟨rest, depth⟩ := s
  obtain ⟨rest', rfl⟩ := List.head?_eq_some_iff.mp hclosing.2
  rw [readStep_some]
  exact if_pos hs

/-! ## Readers with a budget -/

def decrement? : Nat → Option Nat
  | 0 => none
  | depth + 1 => some depth

mutual

/-- Reads an operand within a budget of nested calls. -/
def operandWithin : Nat → Cursor → Option (Except Error (Expr × Cursor))
  | 0, _ => none
  | n + 1, s =>
    match s.rest with
    | .word w :: rest => some (.ok (.word w, ⟨rest, s.depth⟩))
    | .not :: rest => (operandWithin n ⟨rest, s.depth⟩).map (Except.map fun r => (.not r.1, r.2))
    | .openParen :: _ => groupWithin n s
    | found => some (.error (.unexpectedToken .operand found.head?))

def groupWithin : Nat → Cursor → Option (Except Error (Expr × Cursor))
  | 0, _ => none
  | n + 1, s => insideWithin n s.depth none ⟨s.rest.tail, s.depth + 1⟩

/-- Makes one step of a chain. It gives nothing if the count is lowered at 0. -/
def stepWithin : Nat → Option Expr → Cursor → Option (Except Error (Expr × Cursor))
  | 0, _, _ => none
  | n + 1, none, s =>
    match s.rest with
    | .closeParen :: _ =>
      some (.error (if s.depth = 0 then .unbalancedParenthesis else .emptyParenthesis))
    | _ => operandWithin n s
  | n + 1, some l, s =>
    match s.rest with
    | .closeParen :: rest =>
      if s.depth = 0 then some (.error .unbalancedParenthesis)
      else (decrement? s.depth).map fun depth => .ok (l, ⟨rest, depth⟩)
    | .and :: rest => (operandWithin n ⟨rest, s.depth⟩).map (Except.map fun r => (.and l r.1, r.2))
    | .or :: rest => (operandWithin n ⟨rest, s.depth⟩).map (Except.map fun r => (.or l r.1, r.2))
    | found => some (.error (.unexpectedToken .operator found.head?))

/-- Makes steps until the count is back at `outer` or no token is left. -/
def insideWithin : Nat → Nat → Option Expr → Cursor → Option (Except Error (Expr × Cursor))
  | 0, _, _, _ => none
  | n + 1, outer, left, s =>
    if s.depth = outer then
      match left with
      | some e => some (.ok (e, s))
      | none => some (.error .emptyParenthesis)
    else if s.rest = [] then some (.error .unbalancedParenthesis)
    else (stepWithin n left s).bind fun
      | .error err => some (.error err)
      | .ok (e, t) => insideWithin n outer (some e) t

end

def chainWithin : Nat → Option Expr → Cursor → Option (Except Error Expr)
  | 0, _, _ => none
  | n + 1, left, s =>
    if s.rest = [] then
      match left with
      | some e => some (.ok e)
      | none => some (.error .emptyQuery)
    else (stepWithin n left s).bind fun
      | .error err => some (.error err)
      | .ok (e, t) => chainWithin n (some e) t

/-- A budget is enough for readers at all places that have few enough tokens left. -/
structure Enough (n : Nat) : Prop where
  operand : ∀ s : Cursor, 4 * s.rest.length + 1 ≤ n → operandWithin n s = some (readOperand s)
  group : ∀ s : Cursor, 4 * s.rest.tail.length + 4 ≤ n → groupWithin n s = some (readGroup s)
  step : ∀ (left : Option Expr) (s : Cursor), 4 * s.rest.length + 2 ≤ n →
    stepWithin n left s = some (readStep left s)
  inside : ∀ (outer : Nat) (left : Option Expr) (s : Cursor), 4 * s.rest.length + 3 ≤ n →
    insideWithin n outer left s = some (readInside outer left s)

theorem operandWithin_succ {n : Nat} (h : Enough n) {s : Cursor} (hs : 4 * s.rest.length + 1 ≤ n + 1) :
    operandWithin (n + 1) s = some (readOperand s) := by
  obtain ⟨rest, depth⟩ := s
  rcases rest with _ | ⟨t, rest⟩
  · rw [readOperand_eq]
    rfl
  simp only [List.length_cons] at hs
  cases t with
  | not =>
    rw [readOperand_eq, operandWithin]
    dsimp only
    rw [h.operand ⟨rest, depth⟩ (by simp only; omega)]
    rfl
  | openParen =>
    rw [readOperand_group rfl]
    exact h.group _ (by simp only [List.tail_cons]; omega)
  | word w => rw [readOperand_eq]; rfl
  | and => rw [readOperand_eq]; rfl
  | or => rw [readOperand_eq]; rfl
  | closeParen => rw [readOperand_eq]; rfl

theorem stepWithin_succ {n : Nat} (h : Enough n) {left : Option Expr} {s : Cursor}
    (hs : 4 * s.rest.length + 2 ≤ n + 1) : stepWithin (n + 1) left s = some (readStep left s) := by
  obtain ⟨rest, depth⟩ := s
  cases left with
  | none =>
    have hread := h.operand ⟨rest, depth⟩ (by omega)
    rw [stepWithin, readStep_none]
    rcases rest with _ | ⟨t, rest⟩
    · exact hread
    cases t with
    | closeParen => rfl
    | _ => exact hread
  | some l =>
    rw [stepWithin, readStep_some]
    rcases rest with _ | ⟨t, rest⟩
    · rfl
    simp only [List.length_cons] at hs
    have hrest := h.operand ⟨rest, depth⟩ (by simp only; omega)
    cases t with
    | closeParen => cases depth <;> rfl
    | and =>
      dsimp only
      rw [hrest]
      rfl
    | or =>
      dsimp only
      rw [hrest]
      rfl
    | word w => rfl
    | not => rfl
    | openParen => rfl

theorem insideWithin_succ {n : Nat} (h : Enough n) {outer : Nat} {left : Option Expr} {s : Cursor}
    (hs : 4 * s.rest.length + 3 ≤ n + 1) :
    insideWithin (n + 1) outer left s = some (readInside outer left s) := by
  rw [insideWithin.eq_def, readInside_eq]
  dsimp only
  by_cases hd : s.depth = outer
  · rw [if_pos hd, if_pos hd]
    cases left <;> rfl
  rw [if_neg hd, if_neg hd]
  by_cases hr : s.rest = []
  · rw [if_pos hr, if_pos hr]
  · rw [if_neg hr, if_neg hr, h.step left s (by omega)]
    cases hstep : readStep left s with
    | error err => rfl
    | ok r =>
      obtain ⟨e, t⟩ := r
      have hless := readStep_length hstep
      exact h.inside outer (some e) t (by omega)

/-- The calls that a reader makes have a smaller budget, and fewer tokens left whenever it has read one. -/
theorem enough (n : Nat) : Enough n := by
  induction n with
  | zero =>
    exact ⟨fun _ hs => absurd hs (by omega), fun _ hs => absurd hs (by omega),
      fun _ _ hs => absurd hs (by omega), fun _ _ _ hs => absurd hs (by omega)⟩
  | succ n ih =>
    refine ⟨fun s => operandWithin_succ ih, fun s hs => ?_, fun left s => stepWithin_succ ih,
      fun outer left s => insideWithin_succ ih⟩
    exact ih.inside s.depth none ⟨s.rest.tail, s.depth + 1⟩ (by simp only; omega)

theorem chainWithin_eq (n : Nat) (left : Option Expr) (s : Cursor) (hs : 4 * s.rest.length + 3 ≤ n) :
    chainWithin n left s = some (chain left s) := by
  induction n generalizing left s with
  | zero => omega
  | succ n ih =>
    rw [chainWithin.eq_def, chain_eq]
    dsimp only
    by_cases hr : s.rest = []
    · rw [if_pos hr, if_pos hr]
      cases left <;> rfl
    · rw [if_neg hr, if_neg hr, (enough n).step left s (by omega)]
      cases hstep : readStep left s with
      | error err => rfl
      | ok r =>
        obtain ⟨e, t⟩ := r
        have hless := readStep_length hstep
        exact ih (some e) t (by omega)

/-! ## All readers -/

/-- At every place, whatever the tokens left and the number of open groups: an operand and a group that are
read leave that number as it is, and a step does unless it closes a group, which it only does where one is
open and then lowers the number by one; where none is open it is refused. Each consumes at least one token,
and a group ends behind the one parenthesis that matches its first. A budget of nested calls linear in the
tokens is enough for all readers and for the loops of a group and of a query, and in it the number of open
groups is never lowered from 0. -/
theorem readers_keep_depth (s : Cursor) :
    (∀ e t, readOperand s = .ok (e, t) → t.depth = s.depth ∧ Consumes s t) ∧
    (∀ e t, readGroup s = .ok (e, t) → t.depth = s.depth ∧ Consumes s t ∧
      (∃ inner, Matched s.rest.tail inner t.rest) ∧
      ∀ inner rest, Matched s.rest.tail inner rest → rest = t.rest) ∧
    (s.rest.head? = some .openParen → readOperand s = readGroup s) ∧
    (∀ left e t, readStep left s = .ok (e, t) → Consumes s t ∧
      (Closing left s → 0 < s.depth ∧ t.depth = s.depth - 1 ∧ left = some e ∧
        s.rest = .closeParen :: t.rest) ∧
      (¬ Closing left s → t.depth = s.depth)) ∧
    (∀ l, Closing (some l) s → s.depth = 0 → readStep (some l) s = .error .unbalancedParenthesis) ∧
    ∀ n, 4 * s.rest.length + 4 ≤ n →
      operandWithin n s = some (readOperand s) ∧ groupWithin n s = some (readGroup s) ∧
      (∀ left, stepWithin n left s = some (readStep left s)) ∧
      (∀ outer left, insideWithin n outer left s = some (readInside outer left s)) ∧
      ∀ left, chainWithin n left s = some (chain left s) := by
  refine ⟨fun e t => readOperand_consumes, fun e t h => ?_, readOperand_group,
    fun left e t => readStep_consumes, fun l => readStep_unbalanced, fun n hn => ?_⟩
  · obtain ⟨hdepth, hused, inner, hmatched⟩ := readGroup_consumes h
    exact ⟨hdepth, hused, ⟨inner, hmatched⟩, fun _ _ => hmatched.rest_eq⟩
  · have htail : s.rest.tail.length ≤ s.rest.length := by simp
    exact ⟨(enough n).operand s (by omega), (enough n).group s (by omega),
      fun left => (enough n).step left s (by omega), fun outer left => (enough n).inside outer left s (by omega),
      fun left => chainWithin_eq n left s (by omega)⟩

/-- A group with a group in it, inside an open group that is closed after it. -/
theorem group_in_open_group :
    let s : Cursor := ⟨[.openParen, .word "a", .or, .openParen, .not, .word "b", .closeParen, .closeParen,
      .closeParen], 1⟩
    let t : Cursor := ⟨[.closeParen], 1⟩
    let e : Expr := .or (.word "a") (.not (.word "b"))
    readGroup s = .ok (e, t) ∧ (∃ inner, Matched s.rest.tail inner t.rest) ∧
      groupWithin 40 s = some (readGroup s) ∧
      Closing (some e) t ∧ readStep (some e) t = .ok (e, ⟨[], 0⟩) ∧ Consumes t ⟨[], 0⟩ := by
  intro s t e
  have hgroup : readGroup s = .ok (e, t) := by
    rw [← readOperand_group rfl]
    cbv
  have hstep : readStep (some e) t = .ok (e, ⟨[], 0⟩) := by cbv
  obtain ⟨-, hgroups, -, -, -, hbudget⟩ := readers_keep_depth s
  obtain ⟨-, -, hmatched, -⟩ := hgroups e t hgroup
  obtain ⟨-, -, -, hsteps, -⟩ := readers_keep_depth t
  exact ⟨hgroup, hmatched, (hbudget 40 (by decide)).2.1, ⟨Option.some_ne_none e, rfl⟩, hstep,
    (hsteps (some e) e ⟨[], 0⟩ hstep).1⟩

end Concordance.Proofs.Query.Depth
