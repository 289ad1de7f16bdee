import Mathlib.Data.List.Forall2
import Concordance.Text.Lines

/-!
# Lines and their endings

Lines without line feeds are written down with either ending after each, the last of them with one or
without. Read back, every line has at most lost carriage returns at its end, and no line is missing but
an empty last one that was written without an ending.
-/
namespace Concordance.Proofs.Text.Endings

open Concordance.Text

/-- What ends a line: a line feed, or a carriage return and a line feed. -/
inductive Ending where
  | feed
  | returnFeed
  deriving DecidableEq, Repr

def Ending.returns : Ending → List Char
  | .feed => []
  | .returnFeed => ['\r']

/-- The characters of some lines, each with its ending. The ending of the last one is left out unless the
text is `closed`. -/
def writtenOf (closed : Bool) : List (String × Ending) → List Char
  | [] => []
  | [(line, ending)] => line.toList ++ if closed then ending.returns ++ ['\n'] else []
  | (line, ending) :: next :: rest =>
    line.toList ++ (ending.returns ++ '\n' :: writtenOf closed (next :: rest))

def written (closed : Bool) (lines : List (String × Ending)) : String :=
  String.ofList (writtenOf closed lines)

/-- A line is read as itself without some carriage returns at its end. -/
def ReadAs (line read : String) : Prop :=
  ∃ returns : List Char, (∀ c ∈ returns, c = '\r') ∧ line.toList = read.toList ++ returns

/-! ## One line -/

theorem splitOnP_of_not_feed {line : List Char} (h : '\n' ∉ line) :
    line.splitOnP (· == '\n') = [line] :=
  List.splitOnP_eq_singleton fun _ hc => beq_eq_false_iff_ne.mpr fun he => h (he ▸ hc)

theorem linesOf_feed {line : List Char} (h : '\n' ∉ line) (rest : List Char) :
    linesOf (line ++ '\n' :: rest) = withoutReturn line :: linesOf rest := by
  rw [linesOf, List.splitOnP_append_cons line rest rfl, splitOnP_of_not_feed h, List.singleton_append,
    linesOf]
  obtain ⟨piece, pieces, hpieces⟩ :=
    List.exists_cons_of_ne_nil (List.splitOnP_ne_nil (· == '\n') rest)
  rw [hpieces, linesOfPieces]
  exact List.cons_ne_nil piece pieces

theorem linesOf_open {line : List Char} (h : '\n' ∉ line) :
    linesOf line = if line = [] then [] else [line] := by
  rw [linesOf, splitOnP_of_not_feed h, linesOfPieces]

/-- Reading takes at most carriage returns off a line. -/
theorem exists_returns (line : List Char) (ending : Ending) : ∃ returns : List Char,
    (∀ c ∈ returns, c = '\r') ∧ line = withoutReturn (line ++ ending.returns) ++ returns := by
  cases ending with
  | feed =>
    rw [Ending.returns, List.append_nil, withoutReturn]
    split
    · -- a carriage return of the line itself is taken for a part of the ending
      rename_i hlast
      obtain ⟨front, rfl⟩ := List.getLast?_eq_some_iff.mp hlast
      exact ⟨['\r'], by simp, by rw [List.dropLast_concat]⟩
    · exact ⟨[], by simp, (List.append_nil line).symm⟩
  | returnFeed =>
    refine ⟨[], by simp, ?_⟩
    rw [Ending.returns, withoutReturn, if_pos (by simp), List.dropLast_concat, List.append_nil]

theorem not_feed_returns {line : List Char} (h : '\n' ∉ line) (ending : Ending) :
    '\n' ∉ line ++ ending.returns := by
  cases ending <;> simp [Ending.returns, h]

/-! ## All lines -/

theorem exists_linesOf_ended {line : String} (h : '\n' ∉ line.toList) (ending : Ending)
    (rest : List Char) : ∃ read : String, ReadAs line read ∧
      linesOf (line.toList ++ (ending.returns ++ '\n' :: rest)) = read.toList :: linesOf rest := by
  obtain ⟨returns, hreturns, hline⟩ := exists_returns line.toList ending
  refine ⟨String.ofList (withoutReturn (line.toList ++ ending.returns)), ⟨returns, hreturns, ?_⟩, ?_⟩
  · rw [String.toList_ofList]
    exact hline
  · rw [← List.append_assoc, linesOf_feed (not_feed_returns h ending), String.toList_ofList]

theorem exists_lines_written (closed : Bool) {lines : List (String × Ending)}
    (h : ∀ p ∈ lines, '\n' ∉ p.1.toList) : ∃ kept : List String,
      List.Forall₂ ReadAs kept (Text.lines (written closed lines)) ∧
      (lines.map Prod.fst = kept ∨ lines.map Prod.fst = kept ++ [""]) := by
  rw [Text.lines, written, String.toList_ofList]
  fun_induction writtenOf closed lines with
  | case1 => exact ⟨[], .nil, Or.inl rfl⟩
  | case2 line ending =>
    have hline := h (line, ending) List.mem_cons_self
    cases closed with
    | true =>
      obtain ⟨read, hread, hof⟩ := exists_linesOf_ended hline ending []
      refine ⟨[line], ?_, Or.inl rfl⟩
      rw [if_pos rfl, hof, List.map_cons, String.ofList_toList]
      exact .cons hread .nil
    | false =>
      rw [if_neg Bool.false_ne_true, List.append_nil, linesOf_open hline]
      by_cases hempty : line = ""
      · -- nothing is left to be read as a line
        subst hempty
        exact ⟨[], .nil, Or.inr rfl⟩
      · refine ⟨[line], ?_, Or.inl rfl⟩
        rw [if_neg (mt String.toList_eq_nil_iff.mp hempty), List.map_singleton, String.ofList_toList]
        exact .cons ⟨[], by simp, (List.append_nil _).symm⟩ .nil
  | case3 line ending next rest ih =>
    obtain ⟨kept, hkept, hlines⟩ := ih fun p hp => h p (List.mem_cons_of_mem _ hp)
    obtain ⟨read, hread, hof⟩ :=
      exists_linesOf_ended (h (line, ending) List.mem_cons_self) ending (writtenOf closed (next :: rest))
    refine ⟨line :: kept, ?_, ?_⟩
    · rw [hof, List.map_cons, String.ofList_toList]
      exact .cons hread hkept
    · rw [List.map_cons]
      exact hlines.imp (congrArg (line :: ·)) (congrArg (line :: ·))

end Concordance.Proofs.Text.Endings
