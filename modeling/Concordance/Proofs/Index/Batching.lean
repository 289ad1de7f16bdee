import Mathlib.Data.List.Forall2
import Concordance.Batch
import Concordance.Index.Builder
import Concordance.Proofs.Query.Rendering

/-!
# A batch is its lines, one by one

The lines of a batch are numbered first, the blank ones left out then, and each of the others is searched
for as if it stood alone. So a batch of two lists of lines is the one after the other, with other numbers.
The query that an answer names is the rendering of what was searched for, and searching for it as it
stands gives the same results, because renderings are parsed back.
-/
namespace Concordance.Proofs.Index.Batching

open Concordance.Query Query.Rendering

/-- The lines that are not blank, each with its place among all lines, which are counted from `first`. -/
def numberedFrom (first : Nat) (lines : List String) : List (String × Nat) :=
  (lines.zipIdx first).filter fun p => decide (Text.trim p.1 ≠ "")

/-- An answer to a numbered line: what a search for that line alone finds, under the canonical text of
the query, or under the line without the blanks around it if it is no query. -/
structure IsAnswer (index : Index) (settings : Settings) (p : String × Nat) (answer : LineAnswer) :
    Prop where
  line_eq : answer.line = p.2
  outcome_eq : answer.outcome = index.searchText settings p.1
  query_of_parsed : ∀ e, parse p.1 = .ok e → answer.query = e.render
  query_of_refused : ∀ err, parse p.1 = .error err → answer.query = Text.trim p.1

def moved (count : Nat) (answer : LineAnswer) : LineAnswer :=
  { answer with line := answer.line + count }

variable (index : Index) (settings : Settings)

/-! ## One line -/

theorem isAnswer_searchLine (p : String × Nat) :
    IsAnswer index settings p (index.searchLine settings p.2 p.1) := by
  unfold Index.searchLine
  cases h : parse p.1 with
  | ok e =>
    refine ⟨rfl, ?_, fun e' he => ?_, fun err he => ?_⟩
    · rw [Index.searchText, h]
      rfl
    · rw [h] at he
      rw [Except.ok.inj he]
    · rw [h] at he
      cases he
  | error err =>
    refine ⟨rfl, ?_, fun e he => ?_, fun err he => rfl⟩
    · rw [Index.searchText, h]
      rfl
    · rw [h] at he
      cases he

/-- What an answer calls its query finds again what the answer holds. -/
theorem searchText_query {p : String × Nat} {answer : LineAnswer} {hits : List Hit}
    (h : IsAnswer index settings p answer) (hok : answer.outcome = .ok hits) :
    index.searchText settings answer.query = .ok hits := by
  have hfound := h.outcome_eq.symm.trans hok
  rw [Index.searchText] at hfound ⊢
  obtain ⟨e, he, hhits⟩ := Query.Reading.map_eq_ok hfound
  have hback : parse answer.query = .ok e := by
    rw [h.query_of_parsed e he]
    exact parse_render_of_plain (plain_of_parse he)
  rw [hback, ← hhits]
  rfl

/-! ## All lines -/

theorem searchLinesFrom_eq (first : Nat) (lines : List String) :
    index.searchLinesFrom settings first lines =
      (numberedFrom first lines).map fun p => index.searchLine settings p.2 p.1 := by
  induction lines generalizing first with
  | nil => rfl
  | cons text lines ih =>
    rw [Index.searchLinesFrom, ih, numberedFrom, numberedFrom, List.zipIdx_cons, List.filter_cons]
    by_cases h : Text.trim text = "" <;> simp [h]

/-- The answers of a batch are those to its lines that are not blank. -/
theorem mem_searchLines_iff {lines : List String} {answer : LineAnswer} :
    answer ∈ index.searchLines settings lines ↔ ∃ (i : Nat) (text : String),
      lines[i]? = some text ∧ Text.trim text ≠ "" ∧
        answer = index.searchLine settings (i + 1) text := by
  rw [Index.searchLines, searchLinesFrom_eq, List.mem_map]
  constructor
  · rintro ⟨⟨text, line⟩, hp, rfl⟩
    obtain ⟨hmem, hne⟩ := List.mem_filter.mp hp
    obtain ⟨hle, htext⟩ := List.mk_mem_zipIdx_iff_le_and_getElem?_sub.mp hmem
    exact ⟨line - 1, text, htext, of_decide_eq_true hne, by rw [Nat.sub_add_cancel hle]⟩
  · rintro ⟨i, text, htext, hne, rfl⟩
    have hmem : (text, i + 1) ∈ lines.zipIdx 1 :=
      List.mk_mem_zipIdx_iff_le_and_getElem?_sub.mpr ⟨Nat.le_add_left 1 i, htext⟩
    exact ⟨(text, i + 1), List.mem_filter.mpr ⟨hmem, decide_eq_true hne⟩, rfl⟩

theorem searchLinesFrom_append (first : Nat) (lines more : List String) :
    index.searchLinesFrom settings first (lines ++ more) =
      index.searchLinesFrom settings first lines ++
        index.searchLinesFrom settings (first + lines.length) more := by
  simp only [searchLinesFrom_eq, numberedFrom, List.zipIdx_append, List.filter_append,
    List.map_append]

theorem searchLine_add (first count : Nat) (text : String) :
    index.searchLine settings (first + count) text =
      moved count (index.searchLine settings first text) := by
  unfold Index.searchLine
  cases parse text <;> rfl

theorem searchLinesFrom_add (first count : Nat) (lines : List String) :
    index.searchLinesFrom settings (first + count) lines =
      (index.searchLinesFrom settings first lines).map (moved count) := by
  induction lines generalizing first with
  | nil => rfl
  | cons text lines ih =>
    have hnext : first + count + 1 = first + 1 + count := by omega
    rw [Index.searchLinesFrom, Index.searchLinesFrom, hnext, ih, searchLine_add]
    split <;> rfl

/-- Every answer of a batch is the answer to one of its lines. -/
theorem forall₂_searchLines (lines : List String) :
    List.Forall₂ (IsAnswer index settings) (numberedFrom 1 lines)
      (index.searchLines settings lines) := by
  rw [Index.searchLines, searchLinesFrom_eq, List.forall₂_map_right_iff]
  exact List.forall₂_same.mpr fun p _ => isAnswer_searchLine index settings p

/-- A batch answers the lines that are not blank one by one and in their order, each with its number
among all lines and as a search for it alone does. Lines that follow others are answered as on their
own, with their numbers counted on. What an answer with results calls its query is a query with the
same results. -/
theorem searchLines_one_by_one :
    (∀ lines : List String, List.Forall₂ (IsAnswer index settings) (numberedFrom 1 lines)
      (index.searchLines settings lines)) ∧
    (∀ lines more : List String, index.searchLines settings (lines ++ more) =
      index.searchLines settings lines ++
        (index.searchLines settings more).map (moved lines.length)) ∧
    ∀ (lines : List String) (answer : LineAnswer) (hits : List Hit),
      answer ∈ index.searchLines settings lines → answer.outcome = .ok hits →
        index.searchText settings answer.query = .ok hits := by
  refine ⟨forall₂_searchLines index settings, fun lines more => ?_, fun lines answer hits h hok => ?_⟩
  · rw [Index.searchLines, searchLinesFrom_append, searchLinesFrom_add]
    rfl
  · rw [Index.searchLines, searchLinesFrom_eq] at h
    obtain ⟨p, -, rfl⟩ := List.mem_map.mp h
    exact searchText_query index settings (isAnswer_searchLine index settings p) hok

def twoDocuments : Index :=
  .ofEntries [⟨"", "x", ["grado"]⟩, ⟨"", "y", ["master"]⟩]

/-- A query, a line of one blank that is no layout of queries, and a line that is no query. -/
theorem searchLines_threeLines :
    let hits := twoDocuments.search ⟨10, 150⟩ (.and (.word "master") (.not (.word "grado")))
    twoDocuments.searchLines ⟨10, 150⟩ ["master AND NOT grado", "\u2003", "master AND "] =
      [⟨1, "(master AND NOT (grado))", .ok hits⟩,
        ⟨3, "master AND", .error (.unexpectedToken .operand none)⟩] ∧
    twoDocuments.searchText ⟨10, 150⟩ "(master AND NOT (grado))" = .ok hits := by
  intro hits
  have hfirst : parse "master AND NOT grado" =
      .ok (.and (.word "master") (.not (.word "grado"))) := by cbv
  have hlast : parse "master AND " = .error (.unexpectedToken .operand none) := by cbv
  have hlines : twoDocuments.searchLines ⟨10, 150⟩
      ["master AND NOT grado", "\u2003", "master AND "] =
      [⟨1, "(master AND NOT (grado))", .ok hits⟩,
        ⟨3, "master AND", .error (.unexpectedToken .operand none)⟩] := by
    have htrim : Text.trim "master AND NOT grado" = "master AND NOT grado" ∧
        Text.trim "\u2003" = "" ∧ Text.trim "master AND " = "master AND" := by decide
    simp [Index.searchLines, Index.searchLinesFrom, Index.searchLine, htrim, hfirst, hlast, hits,
      Expr.render]
  refine ⟨hlines, ?_⟩
  exact (searchLines_one_by_one twoDocuments ⟨10, 150⟩).2.2 _ _ hits
    (hlines ▸ List.mem_cons_self) rfl

end Concordance.Proofs.Index.Batching
