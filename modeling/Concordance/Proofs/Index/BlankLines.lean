import Concordance.Proofs.Index.Batching
import Concordance.Proofs.Query.Margins

/-!
# Blank lines and empty queries

A batch leaves out the lines that are all blanks, and a query is empty if it is all layout. So every
empty query is left out and no answer tells of one. But a line of other blanks is left out too, though a
query by itself may read it as a word. Likewise, the text that an answer shows for a line that is no
query is the trimmed line, which has the tokens of the line only if nothing but layout was trimmed off.
-/
namespace Concordance.Proofs.Index.BlankLines

open Concordance.Query Batching Query.Margins Query.Spacing Text.Trimming

variable (index : Index) (settings : Settings)

/-- No answer of a batch is to the line at a place, counted from 0. -/
def Skips (lines : List String) (i : Nat) : Prop :=
  ∀ answer ∈ index.searchLines settings lines, answer.line ≠ i + 1

theorem trim_eq_empty_iff_query (text : String) :
    Text.trim text = "" ↔ parse text = .error .emptyQuery ∨ OddBlank text := by
  rw [trim_eq_empty_iff, parse_eq_emptyQuery_iff, OddBlank]
  constructor
  · intro h
    by_cases hgap : IsGap text.toList
    · exact Or.inl hgap
    · exact Or.inr ⟨h, hgap⟩
  · rintro (hgap | ⟨h, -⟩)
    · exact fun c hc => isBlank_of_isLayout ((isGap_iff _).mp hgap c hc)
    · exact h

/-! ## Answers and their lines -/

theorem isAnswer_of_mem {lines : List String} {answer : LineAnswer}
    (h : answer ∈ index.searchLines settings lines) : ∃ (i : Nat) (text : String),
      lines[i]? = some text ∧ Text.trim text ≠ "" ∧ IsAnswer index settings (text, i + 1) answer := by
  obtain ⟨i, text, htext, hne, rfl⟩ := (mem_searchLines_iff index settings).mp h
  exact ⟨i, text, htext, hne, isAnswer_searchLine index settings (text, i + 1)⟩

/-- The line of an answer is the one that its number names. -/
theorem isAnswer_of_line {lines : List String} {i : Nat} {text : String} {answer : LineAnswer}
    (htext : lines[i]? = some text) (h : answer ∈ index.searchLines settings lines)
    (hline : answer.line = i + 1) :
    Text.trim text ≠ "" ∧ IsAnswer index settings (text, i + 1) answer := by
  obtain ⟨j, other, hother, hne, hanswer⟩ := isAnswer_of_mem index settings h
  obtain rfl : j = i := Nat.succ.inj (hanswer.line_eq.symm.trans hline)
  obtain rfl := Option.some.inj (hother.symm.trans htext)
  exact ⟨hne, hanswer⟩

theorem skips_iff {lines : List String} {i : Nat} {text : String} (htext : lines[i]? = some text) :
    Skips index settings lines i ↔ Text.trim text = "" := by
  constructor
  · intro hskips
    by_contra hne
    have hmem : index.searchLine settings (i + 1) text ∈ index.searchLines settings lines :=
      (mem_searchLines_iff index settings).mpr ⟨i, text, htext, hne, rfl⟩
    exact hskips _ hmem (isAnswer_searchLine index settings (text, i + 1)).line_eq
  · intro hblank answer hanswer hline
    exact (isAnswer_of_line index settings htext hanswer hline).1 hblank

theorem parse_of_outcome {p : String × Nat} {answer : LineAnswer} {err : Error}
    (h : IsAnswer index settings p answer) (herr : answer.outcome = .error err) :
    parse p.1 = .error err := by
  have hfound := h.outcome_eq.symm.trans herr
  rw [Index.searchText] at hfound
  cases hparse : parse p.1 with
  | ok e =>
    rw [hparse] at hfound
    cases hfound
  | error err' =>
    rw [hparse] at hfound
    rw [Except.error.inj hfound]

theorem outcome_ne_emptyQuery {lines : List String} {answer : LineAnswer}
    (h : answer ∈ index.searchLines settings lines) : answer.outcome ≠ .error .emptyQuery := by
  obtain ⟨i, text, -, hne, hanswer⟩ := isAnswer_of_mem index settings h
  intro hempty
  have hparse := parse_of_outcome index settings hanswer hempty
  exact hne ((trim_eq_empty_iff_query text).mpr (Or.inl hparse))

theorem parse_trim {query : String} (h : TrimsLayout query) :
    parse (Text.trim query) = parse query := by
  rw [parse, parse, (tokenize_trim_iff query).mpr h]

/-- A batch leaves out a line exactly if it is an empty query or is made of blanks that are not all
layout, and such blanks are a word or are refused for one. No answer tells of an empty query. If a line
is no query, its answer shows the trimmed line, which has the line's tokens exactly if only layout was
trimmed off, and is then refused with the line's error. -/
theorem agrees_up_to_layout :
    (∀ (lines : List String) (i : Nat) (text : String), lines[i]? = some text →
      (Skips index settings lines i ↔ parse text = .error .emptyQuery ∨ OddBlank text)) ∧
    (∀ text : String, OddBlank text → (∃ w, parse text = .ok (.word w)) ∨
      ∃ w, parse text = .error (.unexpectedToken .operator (some (.word w)))) ∧
    (∀ lines : List String, ∀ answer ∈ index.searchLines settings lines,
      answer.outcome ≠ .error .emptyQuery) ∧
    (∀ text : String, tokenize (Text.trim text) = tokenize text ↔ TrimsLayout text) ∧
    ∀ (lines : List String) (i : Nat) (text : String) (answer : LineAnswer) (err : Error),
      lines[i]? = some text → answer ∈ index.searchLines settings lines → answer.line = i + 1 →
        answer.outcome = .error err →
          parse text = .error err ∧ answer.query = Text.trim text ∧
            (TrimsLayout text → parse answer.query = .error err) := by
  refine ⟨fun lines i text htext => ?_, fun text hodd => parse_oddBlank hodd,
    fun lines answer h => outcome_ne_emptyQuery index settings h, tokenize_trim_iff,
    fun lines i text answer err htext h hline herr => ?_⟩
  · rw [skips_iff index settings htext, trim_eq_empty_iff_query]
  · obtain ⟨-, hanswer⟩ := isAnswer_of_line index settings htext h hline
    have hparse := parse_of_outcome index settings hanswer herr
    have hquery := hanswer.query_of_refused err hparse
    refine ⟨hparse, hquery, fun htrims => ?_⟩
    rw [hquery, parse_trim htrims]
    exact hparse

/-! ## A blank that is no layout -/

theorem oddBlank_noBreak : OddBlank "\u00a0" := by
  refine ⟨List.all_eq_true.mp (by decide), fun hgap => ?_⟩
  exact absurd (hgap '\u00a0' List.mem_cons_self) (by decide)

/-- A no-break space is left out, and an open group between layout is refused as it is shown. -/
theorem agrees_on_openGroup :
    Skips twoDocuments {} ["\t(grado \r", "\u00a0"] 1 ∧ OddBlank "\u00a0" ∧
    ((∃ w, parse "\u00a0" = .ok (.word w)) ∨
      ∃ w, parse "\u00a0" = .error (.unexpectedToken .operator (some (.word w)))) ∧
    TrimsLayout "\t(grado \r" ∧
    (⟨1, "(grado", .error .unbalancedParenthesis⟩ : LineAnswer) ∈
      twoDocuments.searchLines {} ["\t(grado \r", "\u00a0"] ∧
    parse "(grado" = .error .unbalancedParenthesis := by
  obtain ⟨hskips, hodd, -, -, hrefused⟩ := agrees_up_to_layout twoDocuments {}
  have htrims : TrimsLayout "\t(grado \r" :=
    ⟨['\t'], [' ', '\r'], by simp [IsGap], by simp [IsGap], by decide⟩
  have hopen : parse "\t(grado \r" = .error .unbalancedParenthesis := by cbv
  have hmem : (⟨1, "(grado", .error .unbalancedParenthesis⟩ : LineAnswer) ∈
      twoDocuments.searchLines {} ["\t(grado \r", "\u00a0"] := by
    refine (mem_searchLines_iff _ _).mpr ⟨0, "\t(grado \r", rfl, by decide, ?_⟩
    have htrim : Text.trim "\t(grado \r" = "(grado" := by decide
    rw [Index.searchLine, hopen, htrim]
  refine ⟨(hskips _ 1 "\u00a0" rfl).mpr (Or.inr oddBlank_noBreak), oddBlank_noBreak,
    hodd _ oddBlank_noBreak, htrims, hmem, ?_⟩
  exact (hrefused _ 0 "\t(grado \r" _ _ rfl hmem rfl rfl).2.2 htrims

/-- A line that as a query by itself is a word is left out of a batch. A line that is no query is shown
without the word that it is refused for, and what is left is a query. -/
theorem skips_word_noBreak :
    (Skips twoDocuments {} ["\u00a0"] 0 ∧ parse "\u00a0" = .ok (.word "\u00a0")) ∧
    twoDocuments.searchLines {} ["grado \u00a0"] =
      [⟨1, "grado", .error (.unexpectedToken .operator (some (.word "\u00a0")))⟩] ∧
    parse "grado" = .ok (.word "grado") := by
  refine ⟨⟨(skips_iff _ _ rfl).mpr (by decide), by cbv⟩, ?_, by cbv⟩
  have htrim : Text.trim "grado \u00a0" = "grado" := by decide
  have hparse : parse "grado \u00a0" =
      .error (.unexpectedToken .operator (some (.word "\u00a0"))) := by cbv
  simp [Index.searchLines, Index.searchLinesFrom, Index.searchLine, htrim, hparse]

end Concordance.Proofs.Index.BlankLines
