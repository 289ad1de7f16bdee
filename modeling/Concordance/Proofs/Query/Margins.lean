import Concordance.Proofs.Query.Scanning
import Concordance.Proofs.Query.Spacing
import Concordance.Proofs.Text.Trimming

/-!
# The blanks around a query

All layout is blank, but most blanks are no layout: a query reads them as parts of words. So trimming
keeps the tokens of a query exactly if it takes off nothing but layout. A query is empty exactly if it is
all layout, and one of other blanks is a word or several words in a row.
-/
namespace Concordance.Proofs.Query.Margins

open Concordance.Query Grammar Lexing Parsing Scanning Spacing Text.Trimming

/-- Trimming takes nothing but layout off the ends of a text. -/
def TrimsLayout (text : String) : Prop :=
  ∃ lead trail : List Char, IsGap lead ∧ IsGap trail ∧
    text.toList = lead ++ ((Text.trim text).toList ++ trail)

/-- A text of blanks of which some are no layout. -/
def OddBlank (text : String) : Prop :=
  (∀ c ∈ text.toList, Text.isBlank c = true) ∧ ¬ IsGap text.toList

theorem isBlank_of_isLayout {c : Char} (h : isLayout c = true) : Text.isBlank c = true := by
  have hall : [' ', '\t', '\n', '\r'].all Text.isBlank = true := by decide
  exact List.all_eq_true.mp hall c ((isLayout_iff c).mp h)

/-! ## Tokens of a trimmed query -/

theorem isGap_of_filter_eq_nil {run : List Char} (h : run.filter (fun c => !isLayout c) = []) :
    IsGap run := by
  rw [isGap_iff]
  intro c hc
  simpa using List.filter_eq_nil_iff.mp h c hc

theorem isGap_margins {lead core trail : List Char}
    (h : core.filter (fun c => !isLayout c) =
      (lead ++ (core ++ trail)).filter (fun c => !isLayout c)) : IsGap lead ∧ IsGap trail := by
  have hlength := congrArg List.length h
  rw [List.filter_append, List.filter_append, List.length_append, List.length_append] at hlength
  have hlead : lead.filter (fun c => !isLayout c) = [] := List.length_eq_zero_iff.mp (by omega)
  have htrail : trail.filter (fun c => !isLayout c) = [] := List.length_eq_zero_iff.mp (by omega)
  exact ⟨isGap_of_filter_eq_nil hlead, isGap_of_filter_eq_nil htrail⟩

/-- A query has the tokens of the trimmed query exactly if only layout is trimmed off. -/
theorem tokenize_trim_iff (query : String) :
    tokenize (Text.trim query) = tokenize query ↔ TrimsLayout query := by
  rw [tokenize, tokenize]
  constructor
  · intro h
    obtain ⟨lead, trail, -, htext⟩ := exists_margins query.toList
    rw [← @String.toList_ofList (Text.trimmed query.toList), ← Text.trim] at htext
    -- the same tokens show the same characters, so the margins show none
    have hsame : (Text.trim query).toList.filter (fun c => !isLayout c) =
        (lead ++ ((Text.trim query).toList ++ trail)).filter (fun c => !isLayout c) := by
      rw [← htext, ← flatMap_text_tokensOf, h, flatMap_text_tokensOf]
    obtain ⟨hlead, htrail⟩ := isGap_margins hsame
    exact ⟨lead, trail, hlead, htrail, htext⟩
  · rintro ⟨lead, trail, hlead, htrail, htext⟩
    rw [htext, tokensOf_layout ((isGap_iff lead).mp hlead),
      tokensOf_append_layout _ ((isGap_iff trail).mp htrail)]

/-! ## Empty queries -/

theorem parse_eq_emptyQuery_iff (query : String) :
    parse query = .error .emptyQuery ↔ IsGap query.toList := by
  rw [parse, parseTokens_eq_emptyQuery_iff, tokenize, tokensOf_eq_nil_iff, isGap_iff]

/-! ## Queries of blanks -/

section
variable {query : String} (h : ∀ c ∈ query.toList, Text.isBlank c = true)
include h

theorem isBlank_of_mem_token {t : Token} (ht : t ∈ tokenize query) {c : Char}
    (hc : c ∈ t.text.toList) : Text.isBlank c = true := by
  have hmem : c ∈ (tokensOf query.toList).flatMap fun t => t.text.toList :=
    List.mem_flatMap.mpr ⟨t, ht, hc⟩
  rw [flatMap_text_tokensOf] at hmem
  exact h c (List.mem_filter.mp hmem).1

/-- No keyword and no parenthesis is blank. -/
theorem exists_word_of_mem {t : Token} (ht : t ∈ tokenize query) : ∃ w, t = .word w := by
  have hblank : ∀ c ∈ t.text.toList, Text.isBlank c = true := fun _ => isBlank_of_mem_token h ht
  cases t with
  | word w => exact ⟨w, rfl⟩
  | and => exact absurd (hblank 'A' (by simp [Token.text])) (by decide)
  | or => exact absurd (hblank 'O' (by simp [Token.text])) (by decide)
  | not => exact absurd (hblank 'N' (by simp [Token.text])) (by decide)
  | openParen => exact absurd (hblank '(' (by simp [Token.text])) (by decide)
  | closeParen => exact absurd (hblank ')' (by simp [Token.text])) (by decide)

end

/-- A query of blanks that are not all layout is one word, or is refused for its second word. -/
theorem parse_oddBlank {query : String} (h : OddBlank query) :
    (∃ w, parse query = .ok (.word w)) ∨
      ∃ w, parse query = .error (.unexpectedToken .operator (some (.word w))) := by
  have hword : ∀ t ∈ tokenize query, ∃ w, t = .word w := fun _ => exists_word_of_mem h.1
  rw [parse]
  cases htokens : tokenize query with
  | nil => exact absurd ((isGap_iff _).mpr ((tokensOf_eq_nil_iff _).mp htokens)) h.2
  | cons t rest =>
    rw [htokens] at hword
    obtain ⟨first, rfl⟩ := hword t List.mem_cons_self
    cases rest with
    | nil => exact Or.inl ⟨first, (parseTokens_eq_ok_iff _ _).mpr (IsOperand.word first).query⟩
    | cons u rest =>
      obtain ⟨second, rfl⟩ := hword u (by simp)
      exact Or.inr ⟨second, (scan_eq_error_iff _ _).mp rfl⟩

end Concordance.Proofs.Query.Margins
