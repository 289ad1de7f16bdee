import Concordance.Proofs.Query.Grammar
import Concordance.Query.Parser

/-!
# The readers without their progress proofs

The readers return trees together with the fact that tokens were consumed, by which their recursion
ends. Below, each reader is given without that fact, by equations in terms of the others, and these
equations are all that later proofs know of them. What a step of a chain can do is said once, by
`Advance`.
-/
namespace Concordance.Proofs.Query.Reading

open Concordance.Query Grammar

def bare {α : Type} {p : α → Prop} (result : Except Error { x : α // p x }) : Except Error α :=
  result.map Subtype.val

theorem of_bare_eq_ok {α : Type} {p : α → Prop} {result : Except Error { x : α // p x }} {x : α}
    (h : bare result = .ok x) : p x := by
  cases result with
  | error e => cases h
  | ok r =>
    obtain rfl : r.val = x := Except.ok.inj h
    exact r.property

def readOperand (s : Cursor) : Except Error (Expr × Cursor) := bare (operand s)

def readStep (left : Option Expr) (s : Cursor) : Except Error (Expr × Cursor) := bare (step left s)

def readInside (outer : Nat) (left : Option Expr) (s : Cursor) : Except Error (Expr × Cursor) :=
  bare (inside outer left s)

theorem readStep_length {left : Option Expr} {s t : Cursor} {e : Expr}
    (h : readStep left s = .ok (e, t)) : t.rest.length < s.rest.length := by
  have hp := of_bare_eq_ok h
  exact hp

/-- Induction on the number of tokens left. What is said of operands at a place may use whatever holds
with fewer tokens left; what is said of the inside of a group may also use the operands at that place. -/
theorem cursor_induction {P Q : Cursor → Prop}
    (hP : ∀ s : Cursor, (∀ u : Cursor, u.rest.length < s.rest.length → P u ∧ Q u) → P s)
    (hQ : ∀ s : Cursor, (∀ u : Cursor, u.rest.length < s.rest.length → Q u) →
      (∀ u : Cursor, u.rest.length ≤ s.rest.length → P u) → Q s)
    (s : Cursor) : P s ∧ Q s := by
  induction hn : s.rest.length using Nat.strongRecOn generalizing s with
  | ind n ih =>
    have ih' : ∀ u : Cursor, u.rest.length < s.rest.length → P u ∧ Q u :=
      fun u hu => ih _ (hn ▸ hu) u rfl
    have hop : ∀ u : Cursor, u.rest.length ≤ s.rest.length → P u :=
      fun u hu => hP u fun v hv => ih' v (Nat.lt_of_lt_of_le hv hu)
    exact ⟨hop s (Nat.le_refl _), hQ s (fun u hu => (ih' u hu).2) hop⟩

/-! ## One equation for each reader -/

theorem readOperand_eq (s : Cursor) : readOperand s =
    match s.rest with
    | .word w :: rest => .ok (.word w, ⟨rest, s.depth⟩)
    | .not :: rest => (readOperand ⟨rest, s.depth⟩).map (fun r => (.not r.1, r.2))
    | .openParen :: rest => readInside s.depth none ⟨rest, s.depth + 1⟩
    | found => .error (.unexpectedToken .operand found.head?) := by
  obtain ⟨rest, depth⟩ := s
  rw [readOperand, operand]
  rcases rest with _ | ⟨t, rest⟩
  · rfl
  cases t with
  | word w => rfl
  | not =>
    dsimp only [readOperand]
    cases operand ⟨rest, depth⟩ <;> rfl
  | openParen =>
    dsimp only [readInside]
    cases inside depth none ⟨rest, depth + 1⟩ <;> rfl
  | and => rfl
  | or => rfl
  | closeParen => rfl

theorem readStep_none (s : Cursor) : readStep none s =
    match s.rest with
    | .closeParen :: _ => .error (if s.depth = 0 then .unbalancedParenthesis else .emptyParenthesis)
    | _ => readOperand s := by
  obtain ⟨rest, depth⟩ := s
  rw [readStep, step]
  rcases rest with _ | ⟨t, rest⟩
  · rfl
  cases t <;> rfl

theorem readStep_some (l : Expr) (s : Cursor) : readStep (some l) s =
    match s.rest with
    | .closeParen :: rest =>
      if s.depth = 0 then .error .unbalancedParenthesis else .ok (l, ⟨rest, s.depth - 1⟩)
    | .and :: rest => (readOperand ⟨rest, s.depth⟩).map (fun r => (.and l r.1, r.2))
    | .or :: rest => (readOperand ⟨rest, s.depth⟩).map (fun r => (.or l r.1, r.2))
    | found => .error (.unexpectedToken .operator found.head?) := by
  obtain ⟨rest, depth⟩ := s
  rw [readStep, step]
  rcases rest with _ | ⟨t, rest⟩
  · rfl
  cases t with
  | closeParen =>
    by_cases h : depth = 0
    · simp [h, bare, Except.map]
    · simp [h, bare, Except.map]
  | and =>
    dsimp only [readOperand]
    cases operand ⟨rest, depth⟩ <;> rfl
  | or =>
    dsimp only [readOperand]
    cases operand ⟨rest, depth⟩ <;> rfl
  | word w => rfl
  | not => rfl
  | openParen => rfl

theorem readInside_eq (outer : Nat) (left : Option Expr) (s : Cursor) : readInside outer left s =
    if s.depth = outer then
      match left with
      | some e => .ok (e, s)
      | none => .error .emptyParenthesis
    else if s.rest = [] then .error .unbalancedParenthesis
    else (readStep left s).bind (fun r => readInside outer (some r.1) r.2) := by
  rw [readInside, inside.eq_def]
  by_cases hd : s.depth = outer
  · rw [if_pos hd, if_pos hd]
    cases left <;> rfl
  · rw [if_neg hd, if_neg hd]
    by_cases hr : s.rest = []
    · rw [if_pos hr, if_pos hr]
      rfl
    · rw [if_neg hr, if_neg hr, readStep]
      rcases step left s with e | ⟨⟨e, t⟩, ht⟩
      · rfl
      · dsimp only [bare, Except.map, Except.bind, readInside]
        cases inside outer (some e) t <;> rfl

theorem chain_eq (left : Option Expr) (s : Cursor) : chain left s =
    if s.rest = [] then
      match left with
      | some e => .ok e
      | none => .error .emptyQuery
    else (readStep left s).bind (fun r => chain (some r.1) r.2) := by
  rw [chain.eq_def]
  by_cases hr : s.rest = []
  · cases left <;> simp [hr]
  · rw [if_neg hr, if_neg hr, readStep]
    rcases step left s with e | ⟨⟨e, t⟩, ht⟩ <;> rfl

/-! ## What a step can do -/

theorem map_eq_ok {α β : Type} {f : α → β} {result : Except Error α} {y : β}
    (h : result.map f = .ok y) : ∃ x, result = .ok x ∧ f x = y := by
  cases result with
  | error e => cases h
  | ok x => exact ⟨x, rfl, Except.ok.inj h⟩

theorem bind_eq_ok {α β : Type} {f : α → Except Error β} {result : Except Error α} {y : β}
    (h : result.bind f = .ok y) : ∃ x, result = .ok x ∧ f x = .ok y := by
  cases result with
  | error e => cases h
  | ok x => exact ⟨x, rfl, h⟩

/-- The three ways in which a step succeeds: it reads the first operand, or an operator with its right
operand, or the parenthesis that closes the innermost open group. -/
inductive Advance : Option Expr → Cursor → Expr → Cursor → Prop where
  | first {s t : Cursor} {e : Expr} (h : readOperand s = .ok (e, t)) : Advance none s e t
  | operation (op : Operator) {l r : Expr} {rest : List Token} {depth : Nat} {t : Cursor}
      (h : readOperand ⟨rest, depth⟩ = .ok (r, t)) :
      Advance (some l) ⟨op.token :: rest, depth⟩ (op.combine l r) t
  | close {l : Expr} {rest : List Token} {depth : Nat} :
      Advance (some l) ⟨.closeParen :: rest, depth + 1⟩ l ⟨rest, depth⟩

/-- A step that reads an operator keeps the tree before it whole. -/
theorem readStep_operator (op : Operator) (l : Expr) (rest : List Token) (depth : Nat) :
    readStep (some l) ⟨op.token :: rest, depth⟩ =
      (readOperand ⟨rest, depth⟩).map (fun r => (op.combine l r.1, r.2)) := by
  rw [readStep_some]
  cases op <;> rfl

theorem readStep_of_readOperand {s t : Cursor} {e : Expr} (h : readOperand s = .ok (e, t)) :
    readStep none s = .ok (e, t) := by
  rw [readStep_none]
  split
  · rename_i rest hs
    rw [readOperand_eq, hs] at h
    cases h
  · exact h

theorem advance_of_readStep {left : Option Expr} {s t : Cursor} {e : Expr}
    (h : readStep left s = .ok (e, t)) : Advance left s e t := by
  obtain ⟨rest, depth⟩ := s
  cases left with
  | none =>
    rw [readStep_none] at h
    dsimp only at h
    split at h
    · cases h
    · exact .first h
  | some l =>
    rw [readStep_some] at h
    dsimp only at h
    split at h
    · rename_i rest
      cases depth with
      | zero => cases h
      | succ depth =>
        obtain ⟨rfl, rfl⟩ := Prod.mk.inj (Except.ok.inj h)
        exact .close
    · obtain ⟨⟨r, t'⟩, hr, heq⟩ := map_eq_ok h
      obtain ⟨rfl, rfl⟩ := Prod.mk.inj heq
      exact .operation .and hr
    · obtain ⟨⟨r, t'⟩, hr, heq⟩ := map_eq_ok h
      obtain ⟨rfl, rfl⟩ := Prod.mk.inj heq
      exact .operation .or hr
    · cases h

/-- A step inside an open group goes on from where it leaves off. -/
theorem readInside_of_readStep {outer : Nat} {left : Option Expr} {s t : Cursor} {e : Expr}
    (hd : s.depth ≠ outer) (h : readStep left s = .ok (e, t)) :
    readInside outer left s = readInside outer (some e) t := by
  have hr : s.rest ≠ [] := List.ne_nil_of_length_pos (Nat.zero_lt_of_lt (readStep_length h))
  rw [readInside_eq, if_neg hd, if_neg hr, h]
  rfl

theorem readInside_closed (e : Expr) (s : Cursor) :
    readInside s.depth (some e) s = .ok (e, s) := by
  rw [readInside_eq, if_pos rfl]

theorem chain_of_readStep {left : Option Expr} {s t : Cursor} {e : Expr}
    (h : readStep left s = .ok (e, t)) : chain left s = chain (some e) t := by
  have hr : s.rest ≠ [] := List.ne_nil_of_length_pos (Nat.zero_lt_of_lt (readStep_length h))
  rw [chain_eq, if_neg hr, h]
  rfl

/-- Induction along a chain: a property of the tokens left holds at their end, and before a step if it
holds after every step that succeeds. -/
theorem chain_induction {P : Option Expr → Cursor → Prop}
    (ended : ∀ (left : Option Expr) (s : Cursor), s.rest = [] → P left s)
    (stepped : ∀ (left : Option Expr) (s : Cursor), s.rest ≠ [] →
      (∀ (e : Expr) (t : Cursor), readStep left s = .ok (e, t) → P (some e) t) → P left s)
    (left : Option Expr) (s : Cursor) : P left s := by
  induction hn : s.rest.length using Nat.strongRecOn generalizing left s with
  | ind n ih =>
    by_cases hr : s.rest = []
    · exact ended left s hr
    · exact stepped left s hr fun e t h => ih t.rest.length (hn ▸ readStep_length h) (some e) t rfl

end Concordance.Proofs.Query.Reading
