import Concordance.Proofs.Index.Retrieval
import Concordance.Proofs.Intake.Taking
import Concordance.Proofs.Page.Normalizing
import Concordance.Proofs.Query.Rendering

/-!
# What is indexed is found as it was written

Texts of pages and words of queries are normalized at different places: a text as a whole, without its
punctuation and its stop words, and a word of a query by lowercase alone, after the query was cut at
four characters and at parentheses. Both ways lead to the same term for every word that a query can
spell, so each word of an accepted page finds that page.
-/
namespace Concordance.Proofs.Intake.Finding

open Concordance.Query
open Index.Retrieval Page.Normalizing Query.Lexing Query.Rendering Taking Text.Words

/-- No layout and no parenthesis is left in a word without its punctuation. -/
theorem isWordChar_of_mem_stripped {run : List Char} (h : Unbroken run) {c : Char}
    (hc : c ∈ stripped run) : isWordChar c = true := by
  have hlayout : [' ', '\t', '\n', '\r'].all Text.isBlank = true := by decide
  have hparens : ['(', ')'].all (fun p => Page.punctuation.contains p) = true := by decide
  obtain ⟨hmem, hkept⟩ := List.mem_filter.mp hc
  rw [isWordChar_iff]
  intro hin
  rcases List.mem_append.mp (show c ∈ [' ', '\t', '\n', '\r'] ++ ['(', ')'] from hin) with hin | hin
  · have hblank := List.all_eq_true.mp hlayout c hin
    rw [h c hmem] at hblank
    cases hblank
  · have hparen := List.all_eq_true.mp hparens c hin
    rw [hparen] at hkept
    cases hkept

/-- A word without its punctuation is a word that a query can spell, unless nothing is left of it or a
keyword. -/
theorem plainWord_written {run : List Char} (h : Unbroken run) (hne : written run ≠ "")
    (hkeyword : written run ∉ ["AND", "OR", "NOT"]) : PlainWord (written run) where
  nonempty := hne
  clean c hc := by
    rw [written, String.toList_ofList] at hc
    exact (isWordChar_iff c).mp (isWordChar_of_mem_stripped h hc)
  notKeyword := hkeyword

/-- Let a page of a sequence be accepted. Every word of its text that is more than punctuation, no stop
word and no keyword is, without its punctuation, a query for that word alone, and the page is among
those that the query finds once all pages are in. -/
theorem findable_as_written {pages : List Page} {k : Nat} {page : Page} {id : DocumentId}
    (hpage : pages[k]? = some page) (haccepted : (takePages .empty pages).1[k]? = some (.ok id))
    {run : List Char} (hrun : IsRun page.content.toList run) (hne : written run ≠ "")
    (hstop : Page.isStopWord (Text.lowercase (written run)) = false)
    (hkeyword : written run ∉ ["AND", "OR", "NOT"]) :
    parse (written run) = .ok (.word (written run)) ∧
      id ∈ (Expr.word (written run)).evaluate (takePages .empty pages).2.finish := by
  have hplain : ∀ w ∈ (Expr.word (written run)).terms, PlainWord w := by
    intro w hw
    rw [List.mem_singleton.mp hw]
    exact plainWord_written hrun.unbroken hne hkeyword
  have hparse := parse_render_of_plain hplain
  rw [Expr.render] at hparse
  refine ⟨hparse, ?_⟩
  obtain ⟨entry, i, hentry, rfl, hi⟩ := entry_of_answer hpage haccepted
  obtain ⟨hlt, hget⟩ := List.getElem?_eq_some_iff.mp hi
  have hterm : Text.lowercase (written run) ∈ entry.tokens := by
    rw [tokens_entryOf? hentry]
    exact lowercase_written_mem hrun hne hstop
  rw [finish_takePages, mem_evaluate_ofEntries]
  have hzero : Concordance.Intake.empty.builder.size + i = i := Nat.zero_add i
  simp only [hzero]
  exact ⟨hlt, by rw [hget]; exact hterm⟩

def strayPage : Page := ⟨"", "grado", .text⟩

/-- A page that shouts its one word in quotes and parentheses. -/
def shoutingPage : Page := ⟨"https://a.b/", "el\u2003¡«(GRΑΔΟΣ)»!\nAND", .pdf⟩

theorem shouted_word_is_found :
    IsRun "el\u2003¡«(GRΑΔΟΣ)»!\nAND".toList "¡«(GRΑΔΟΣ)»!".toList ∧
    parse "«GRΑΔΟΣ»" = .ok (.word "«GRΑΔΟΣ»") ∧
      0 ∈ (Expr.word "«GRΑΔΟΣ»").evaluate
        (takePages .empty [strayPage, shoutingPage]).2.finish := by
  have hrun : IsRun "el\u2003¡«(GRΑΔΟΣ)»!\nAND".toList "¡«(GRΑΔΟΣ)»!".toList := by
    refine ⟨by decide, fun c hc => ?_, "el\u2003".toList, "\nAND".toList, by decide, ?_, ?_⟩
    · have hall : "¡«(GRΑΔΟΣ)»!".toList.all (fun c => !Text.isBlank c) = true := by decide
      simpa using List.all_eq_true.mp hall c hc
    · rintro c ⟨⟩
      decide
    · rintro c ⟨⟩
      decide
  have hword : written "¡«(GRΑΔΟΣ)»!".toList = "«GRΑΔΟΣ»" := by decide
  have hrefused : entryOf? strayPage = none := by rfl
  obtain ⟨entry, hentry⟩ : ∃ entry, entryOf? shoutingPage = some entry :=
    Option.isSome_iff_exists.mp (by decide +kernel)
  have haccepted : (takePages .empty [strayPage, shoutingPage]).1[1]? = some (.ok 0) := by
    rw [takePages_of_none hrefused, takePages_of_some hentry]
    rfl
  have h := @findable_as_written [strayPage, shoutingPage] 1 shoutingPage 0 rfl haccepted
    "¡«(GRΑΔΟΣ)»!".toList hrun (by decide) (by decide +kernel) (by decide)
  rw [hword] at h
  exact ⟨hrun, h⟩

end Concordance.Proofs.Intake.Finding
