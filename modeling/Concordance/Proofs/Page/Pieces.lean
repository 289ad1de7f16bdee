import Mathlib.Data.List.Basic
import Concordance.Page.Basic
import Concordance.Proofs.Page.Normalizing

/-!
# Pages are normalized piece by piece

What stands on one side of a blank has no part in the tokens of the other side. So the tokens of a text
are those of its words, one after another, the tokens of texts joined by spaces are those of the texts,
and the tokens of a page in markup are those of its content elements in the order of the document.
-/
namespace Concordance.Proofs.Page.Pieces

open Concordance.Page Concordance.Text Normalizing Text.Words

def contentTexts (document : List Html.Node) : List String :=
  match Html.findIn? Html.Node.isPageBlock document with
  | some block => Html.piecesOf block.children
  | none => []

theorem normalize_append_blank (text : String) {c : Char} (hc : isBlank c = true) (rest : String) :
    normalize (text ++ String.singleton c ++ rest) = normalize text ++ normalize rest := by
  have hsplit : (text ++ String.singleton c ++ rest).toList = text.toList ++ c :: rest.toList := by
    simp
  rw [Page.normalize, hsplit, normalizeOf_append_blank _ hc, List.map_append]
  rfl

theorem normalize_word {text run : List Char} (h : run ∈ wordsOf text) :
    normalize (String.ofList run) = (indexed? run).toList.map String.ofList := by
  rw [Page.normalize, String.toList_ofList, normalizeOf_unbroken (unbroken_of_mem_wordsOf h)]

theorem normalize_eq_flatMap_words (text : String) :
    normalize text = (words text).flatMap normalize := by
  rw [Page.normalize, normalizeOf_eq, words, List.flatMap_map, List.filterMap_eq_flatMap_toList,
    List.map_flatMap]
  exact List.flatMap_congr fun run hrun => (normalize_word hrun).symm

theorem normalize_intercalate (pieces : List String) :
    normalize (String.intercalate " " pieces) = pieces.flatMap normalize := by
  induction pieces with
  | nil => rfl
  | cons piece pieces ih =>
    cases pieces with
    | nil => rw [String.intercalate_singleton, List.flatMap_singleton]
    | cons next pieces =>
      have hspace : isBlank ' ' = true := by decide
      rw [String.intercalate_cons_cons, List.flatMap_cons, ← ih]
      exact normalize_append_blank piece hspace _

theorem pageText_eq (document : List Html.Node) :
    Html.pageText document = String.intercalate " " (contentTexts document) := by
  rw [Html.pageText, contentTexts]
  cases Html.findIn? Html.Node.isPageBlock document <;> rfl

theorem normalize_pageText (document : List Html.Node) :
    normalize (Html.pageText document) = (contentTexts document).flatMap normalize := by
  rw [pageText_eq, normalize_intercalate]

theorem content_markup {page : Page} (h : page.kind = .html) :
    page.content = Html.pageText (Html.parse page.text) := by
  rw [Page.content, h]

theorem content_plain {page : Page} (h : page.kind ≠ .html) : page.content = page.text := by
  rw [Page.content]
  split
  · rename_i hkind
    exact absurd hkind h
  · rfl

/-- Normalizing two texts with a blank between them gives the tokens of the one and then those of the
other. So a text has the tokens of its words and a document those of its content elements, in order, and
the tokens of a page are those of its words or, if it is markup, of its content elements. -/
theorem tokens_piece_by_piece :
    (∀ (text rest : String) (c : Char), isBlank c = true →
      normalize (text ++ String.singleton c ++ rest) = normalize text ++ normalize rest) ∧
    (∀ text : String, normalize text = (words text).flatMap normalize) ∧
    (∀ document : List Html.Node,
      normalize (Html.pageText document) = (contentTexts document).flatMap normalize) ∧
    (∀ page : Page, page.kind = .html →
      page.tokens = (contentTexts (Html.parse page.text)).flatMap normalize) ∧
    ∀ page : Page, page.kind ≠ .html → page.tokens = (words page.text).flatMap normalize := by
  refine ⟨fun text rest c hc => normalize_append_blank text hc rest, normalize_eq_flatMap_words,
    normalize_pageText, fun page hkind => ?_, fun page hkind => ?_⟩
  · rw [Page.tokens, content_markup hkind, normalize_pageText]
  · rw [Page.tokens, content_plain hkind]
    exact normalize_eq_flatMap_words page.text

def markupPage : Page :=
  ⟨"x", "<div class='page'><h1>ΟΔΟΣ</h1>!<p>el <b>Más</b>ter</div>", .html⟩

def plainPage : Page :=
  ⟨"y", "ΟΔΟΣ.\u2003(ΑΣ ΒΓ", .pdf⟩

/-- Capital sigmas end their words although letters follow across a blank, and the punctuation next to
the blank goes with its own side. -/
theorem tokens_sigmas_apart :
    (isBlank '\u2003' = true ∧ normalize ("ΟΔΟΣ." ++ String.singleton '\u2003' ++ "(ΑΣ ΒΓ") =
      normalize "ΟΔΟΣ." ++ normalize "(ΑΣ ΒΓ") ∧
    (plainPage.kind ≠ .html ∧ plainPage.tokens = ["ΟΔΟΣ.", "(ΑΣ", "ΒΓ"].flatMap normalize) ∧
    (markupPage.kind = .html ∧ markupPage.tokens = ["ΟΔΟΣ", "el Máster"].flatMap normalize) ∧
    normalize "ΟΔΟΣ." = ["οδος"] ∧ normalize "(ΑΣ ΒΓ" = ["ας", "βγ"] ∧
      normalize "el Máster" = ["máster"] := by
  have hblank : isBlank '\u2003' = true := by decide
  have hkind : plainPage.kind ≠ .html := by decide
  have hwords : words plainPage.text = ["ΟΔΟΣ.", "(ΑΣ", "ΒΓ"] := by decide
  have hvalues : contentTexts (Html.parse markupPage.text) = ["ΟΔΟΣ", "el Máster"] ∧
      normalize "ΟΔΟΣ." = ["οδος"] ∧ normalize "(ΑΣ ΒΓ" = ["ας", "βγ"] ∧
      normalize "el Máster" = ["máster"] := by decide +kernel
  obtain ⟨hblanks, -, -, hmarkup, hplain⟩ := tokens_piece_by_piece
  refine ⟨⟨hblank, hblanks _ _ _ hblank⟩, ⟨hkind, ?_⟩, ⟨rfl, ?_⟩, hvalues.2⟩
  · rw [hplain plainPage hkind, hwords]
  · rw [hmarkup markupPage rfl, hvalues.1]

end Concordance.Proofs.Page.Pieces
