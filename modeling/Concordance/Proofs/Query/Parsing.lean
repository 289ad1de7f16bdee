import Concordance.Proofs.Query.Reading

/-!
# Parsing is derivation

Soundness goes by the number of tokens: a reader that succeeds has consumed the tokens of a derivation,
and the number of open groups is what it was, or one less once the group that was open is closed.
Completeness goes by the derivation, and lets any tokens follow it. Together they say that the readers
accept exactly the grammar and build exactly its tree, so that the grammar is unambiguous.
-/
namespace Concordance.Proofs.Query.Parsing

open Concordance.Query Grammar Reading

/-! ## Soundness -/

/-- Reading an operand from `s` consumes an operand and leaves the open groups open. -/
def OperandSound (s : Cursor) : Prop :=
  ∀ (e : Expr) (t : Cursor), readOperand s = .ok (e, t) →
    t.depth = s.depth ∧ ∃ us, s.rest = us ++ t.rest ∧ IsOperand us e

/-- Reading on inside a group consumes the rest of its query and the parenthesis that closes it. -/
def InsideSound (s : Cursor) : Prop :=
  ∀ (outer : Nat) (left : Option Expr) (e : Expr) (t : Cursor), s.depth = outer + 1 →
    readInside outer left s = .ok (e, t) →
      t.depth = outer ∧ ∃ us, s.rest = us ++ .closeParen :: t.rest ∧ Continues left us e

/-- A step either adds one operand to the query, within the groups that are open, or closes the
innermost group and leaves the tree as it is. -/
theorem step_sound {left : Option Expr} {s t : Cursor} {l : Expr}
    (ho : ∀ u : Cursor, u.rest.length ≤ s.rest.length → OperandSound u)
    (h : readStep left s = .ok (l, t)) :
    (t.depth = s.depth ∧
      ∃ us, s.rest = us ++ t.rest ∧ ∀ vs e, IsTail l vs e → Continues left (us ++ vs) e) ∨
    (left = some l ∧ s.depth = t.depth + 1 ∧ s.rest = .closeParen :: t.rest) := by
  cases advance_of_readStep h with
  | first hr =>
    obtain ⟨hd, us, hs, hop⟩ := ho s (Nat.le_refl _) l t hr
    exact Or.inl ⟨hd, us, hs, fun vs e ht => .mk hop ht⟩
  | @operation op l r rest depth _ hr =>
    obtain ⟨hd, us, hs, hop⟩ := ho ⟨rest, depth⟩ (Nat.le_succ _) r t hr
    refine Or.inl ⟨hd, op.token :: us, ?_, fun vs e ht => .more hop ht⟩
    exact congrArg (op.token :: ·) hs
  | close => exact Or.inr ⟨rfl, rfl, rfl⟩

theorem operand_sound_of_shorter {s : Cursor}
    (ih : ∀ u : Cursor, u.rest.length < s.rest.length → OperandSound u ∧ InsideSound u) :
    OperandSound s := by
  intro e t h
  obtain ⟨rest, depth⟩ := s
  rw [readOperand_eq] at h
  dsimp only at h
  split at h
  · rename_i w rest
    obtain ⟨rfl, rfl⟩ := Prod.mk.inj (Except.ok.inj h)
    exact ⟨rfl, [.word w], rfl, .word w⟩
  · rename_i rest
    obtain ⟨⟨e', t'⟩, hr, heq⟩ := map_eq_ok h
    obtain ⟨rfl, rfl⟩ := Prod.mk.inj heq
    obtain ⟨hd, us, hs, hop⟩ := (ih ⟨rest, depth⟩ (Nat.lt_succ_self _)).1 e' t' hr
    exact ⟨hd, .not :: us, congrArg (Token.not :: ·) hs, .not hop⟩
  · rename_i rest
    obtain ⟨hd, us, hs, hq⟩ :=
      (ih ⟨rest, depth + 1⟩ (Nat.lt_succ_self _)).2 depth none e t rfl h
    refine ⟨hd, .openParen :: (us ++ [.closeParen]), ?_, .group hq⟩
    have hs' : rest = us ++ .closeParen :: t.rest := hs
    rw [hs', List.cons_append, List.append_assoc]
    rfl
  · cases h

theorem inside_sound_of_shorter {s : Cursor}
    (ih : ∀ u : Cursor, u.rest.length < s.rest.length → InsideSound u)
    (ho : ∀ u : Cursor, u.rest.length ≤ s.rest.length → OperandSound u) : InsideSound s := by
  intro outer left e t hs h
  have hne : s.depth ≠ outer := by omega
  rw [readInside_eq, if_neg hne] at h
  split at h
  · cases h
  obtain ⟨⟨l, u⟩, hstep, hrest⟩ := bind_eq_ok h
  rcases step_sound ho hstep with ⟨hd, us, hus, hleft⟩ | ⟨rfl, hd, hclose⟩
  · obtain ⟨hd', vs, hvs, htail⟩ :=
      ih u (readStep_length hstep) outer (some l) e t (hd.trans hs) hrest
    refine ⟨hd', us ++ vs, ?_, hleft vs e htail⟩
    rw [hus, hvs, List.append_assoc]
  · -- the group is closed, so that the loop ends here
    obtain rfl : u.depth = outer := by omega
    rw [readInside_closed] at hrest
    obtain ⟨rfl, rfl⟩ := Prod.mk.inj (Except.ok.inj hrest)
    exact ⟨rfl, [], hclose, .done l⟩

theorem sound (s : Cursor) : OperandSound s ∧ InsideSound s :=
  cursor_induction (fun _ => operand_sound_of_shorter) (fun _ => inside_sound_of_shorter) s

/-- Outside all groups there is none to close, so that a step adds an operand. -/
theorem step_sound_outside {left : Option Expr} {s t : Cursor} {l : Expr} (hs : s.depth = 0)
    (h : readStep left s = .ok (l, t)) :
    t.depth = 0 ∧ ∃ us, s.rest = us ++ t.rest ∧ ∀ vs e, IsTail l vs e → Continues left (us ++ vs) e := by
  rcases step_sound (fun u _ => (sound u).1) h with ⟨hd, hus⟩ | ⟨-, hd, -⟩
  · exact ⟨hd.trans hs, hus⟩
  · omega

/-- Outside all groups, a chain reads to the end of the tokens, and they are the rest of a query. -/
theorem chain_sound {left : Option Expr} {s : Cursor} {e : Expr} (hs : s.depth = 0)
    (h : chain left s = .ok e) : Continues left s.rest e := by
  induction left, s using chain_induction with
  | ended left s hr =>
    rw [chain_eq, if_pos hr] at h
    cases left with
    | none => cases h
    | some l =>
      obtain rfl := Except.ok.inj h
      rw [hr]
      exact .done l
  | stepped left s hr ih =>
    rw [chain_eq, if_neg hr] at h
    obtain ⟨⟨l, t⟩, hstep, hrest⟩ := bind_eq_ok h
    obtain ⟨ht, us, hus, hleft⟩ := step_sound_outside hs hstep
    rw [hus]
    exact hleft t.rest e (ih l t hstep ht hrest)

/-! ## Completeness -/

mutual

/-- An operand is read whatever follows it. -/
theorem operand_complete {us : List Token} {e : Expr} :
    IsOperand us e → ∀ (rest : List Token) (depth : Nat),
      readOperand ⟨us ++ rest, depth⟩ = .ok (e, ⟨rest, depth⟩)
  | .word w, rest, depth => by
    rw [readOperand_eq]
    rfl
  | .not inner, rest, depth => by
    rw [readOperand_eq]
    dsimp only [List.cons_append]
    rw [operand_complete inner rest depth]
    rfl
  | .group inner, rest, depth => by
    rw [readOperand_eq]
    dsimp only [List.cons_append]
    rw [List.append_assoc]
    exact query_complete inner rest depth

theorem query_complete {us : List Token} {e : Expr} :
    IsQuery us e → ∀ (rest : List Token) (depth : Nat),
      readInside depth none ⟨us ++ .closeParen :: rest, depth + 1⟩ = .ok (e, ⟨rest, depth⟩)
  | .mk first tail, rest, depth => by
    rw [List.append_assoc, readInside_of_readStep (Nat.succ_ne_self depth)
      (readStep_of_readOperand (operand_complete first _ (depth + 1)))]
    exact tail_complete tail rest depth

theorem tail_complete {left : Expr} {us : List Token} {e : Expr} :
    IsTail left us e → ∀ (rest : List Token) (depth : Nat),
      readInside depth (some left) ⟨us ++ .closeParen :: rest, depth + 1⟩ = .ok (e, ⟨rest, depth⟩)
  | .done left, rest, depth => by
    have hstep : readStep (some left) ⟨.closeParen :: rest, depth + 1⟩ = .ok (left, ⟨rest, depth⟩) := by
      rw [readStep_some]
      rfl
    exact (readInside_of_readStep (Nat.succ_ne_self depth) hstep).trans
      (readInside_closed left ⟨rest, depth⟩)
  | @IsTail.more op ts us left right e next tail, rest, depth => by
    have hstep : readStep (some left) ⟨op.token :: (ts ++ (us ++ .closeParen :: rest)), depth + 1⟩ =
        .ok (op.combine left right, ⟨us ++ .closeParen :: rest, depth + 1⟩) := by
      rw [readStep_operator, operand_complete next _ (depth + 1)]
      rfl
    rw [List.cons_append, List.append_assoc,
      readInside_of_readStep (Nat.succ_ne_self depth) hstep]
    exact tail_complete tail rest depth

end

theorem chain_complete_tail {left : Expr} {us : List Token} {e : Expr} :
    IsTail left us e → ∀ depth : Nat, chain (some left) ⟨us, depth⟩ = .ok e
  | .done left, depth => by rw [chain_eq, if_pos rfl]
  | @IsTail.more op ts us left right e next tail, depth => by
    have hstep : readStep (some left) ⟨op.token :: (ts ++ us), depth⟩ =
        .ok (op.combine left right, ⟨us, depth⟩) := by
      rw [readStep_operator, operand_complete next us depth]
      rfl
    rw [chain_of_readStep hstep]
    exact chain_complete_tail tail depth

theorem chain_complete {us : List Token} {e : Expr} (h : IsQuery us e) (depth : Nat) :
    chain none ⟨us, depth⟩ = .ok e := by
  cases h with
  | mk first tail =>
    rw [chain_of_readStep (readStep_of_readOperand (operand_complete first _ depth))]
    exact chain_complete_tail tail depth

/-! ## Acceptance -/

theorem parseTokens_eq_ok_iff (tokens : List Token) (e : Expr) :
    parseTokens tokens = .ok e ↔ IsQuery tokens e :=
  ⟨fun h => chain_sound rfl h, fun h => chain_complete h 0⟩

/-- No list of tokens stands for two trees. -/
theorem query_unique {tokens : List Token} {e e' : Expr} (h : IsQuery tokens e)
    (h' : IsQuery tokens e') : e = e' := by
  rw [← parseTokens_eq_ok_iff] at h h'
  exact Except.ok.inj (h.symm.trans h')

/-- A query parses to a tree exactly when its tokens stand for that tree in the grammar, and no list of
tokens stands for more than one. -/
theorem parse_eq_ok_iff :
    (∀ (query : String) (e : Expr), parse query = .ok e ↔ IsQuery (tokenize query) e) ∧
    ∀ (tokens : List Token) (e e' : Expr), IsQuery tokens e → IsQuery tokens e' → e = e' :=
  ⟨fun query e => parseTokens_eq_ok_iff (tokenize query) e, fun _ _ _ h h' => query_unique h h'⟩

/-- The operators of one chain fold from the left, and not by a precedence of `AND` over `OR`. -/
theorem folds_left_only :
    IsQuery [.word "a", .or, .word "b", .and, .word "c"]
      (.and (.or (.word "a") (.word "b")) (.word "c")) ∧
    ¬ IsQuery [.word "a", .or, .word "b", .and, .word "c"]
      (.or (.word "a") (.and (.word "b") (.word "c"))) := by
  have h : IsQuery [.word "a", .or, .word "b", .and, .word "c"]
      (.and (.or (.word "a") (.word "b")) (.word "c")) :=
    .mk (.word "a") (@IsTail.more .or _ _ _ _ _ (.word "b")
      (@IsTail.more .and _ _ _ _ _ (.word "c") (.done _)))
  refine ⟨h, fun h' => ?_⟩
  have he := parse_eq_ok_iff.2 _ _ _ h h'
  cases he

end Concordance.Proofs.Query.Parsing
