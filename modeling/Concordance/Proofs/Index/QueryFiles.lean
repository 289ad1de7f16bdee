import Concordance.Files.Access
import Concordance.Proofs.Index.Batching
import Concordance.Proofs.Json.Texts
import Concordance.Proofs.Query.Spacing
import Concordance.Proofs.Text.Endings
import Concordance.Proofs.Text.Trimming

/-!
# Files of queries

A carriage return at the end of a line is layout and a blank, so neither the tokens of the line nor the
line without the blanks around it depend on it. Hence a file of queries is answered as the list of its
lines is, whatever ends them: the numbers, the queries and the outcomes are the same.
-/
namespace Concordance.Proofs.Index.QueryFiles

open Concordance.Query Batching Json.Texts Query.Lexing Text.Endings Text.Trimming

/-- Lines that a batch cannot tell apart. -/
structure Alike (line other : String) : Prop where
  trim_eq : Text.trim line = Text.trim other
  tokenize_eq : tokenize line = tokenize other

variable (index : Index) (settings : Settings)

theorem alike_of_readAs {line read : String} (h : ReadAs line read) : Alike line read := by
  obtain ⟨returns, hreturns, hline⟩ := h
  have hlayout : ∀ c ∈ returns, isLayout c = true := by
    intro c hc
    rw [hreturns c hc]
    rfl
  have hblank : ∀ c ∈ returns, Text.isBlank c = true := by
    intro c hc
    rw [hreturns c hc]
    decide
  refine ⟨?_, ?_⟩
  · rw [Text.trim, Text.trim, hline, trimmed_append_right _ hblank]
  · rw [tokenize, tokenize, hline, tokensOf_append_layout _ hlayout]

theorem searchLine_alike {text other : String} (h : Alike text other) (line : Nat) :
    index.searchLine settings line text = index.searchLine settings line other := by
  have hparse : parse text = parse other := by rw [parse, parse, h.tokenize_eq]
  rw [Index.searchLine, Index.searchLine, hparse, h.trim_eq]

theorem searchLinesFrom_alike {lines others : List String} (h : List.Forall₂ Alike lines others)
    (first : Nat) : index.searchLinesFrom settings first lines =
      index.searchLinesFrom settings first others := by
  induction h generalizing first with
  | nil => rfl
  | cons hline _ ih =>
    rw [Index.searchLinesFrom, Index.searchLinesFrom, hline.trim_eq, ih,
      searchLine_alike index settings hline]

theorem searchLines_append_empty (lines : List String) :
    index.searchLines settings (lines ++ [""]) = index.searchLines settings lines := by
  have hlast : Text.trim "" = "" := rfl
  rw [Index.searchLines, searchLinesFrom_append, Index.searchLinesFrom, if_pos hlast,
    Index.searchLinesFrom, List.append_nil]
  rfl

theorem searchFile_written (closed : Bool) {lines : List (String × Ending)}
    (h : ∀ p ∈ lines, '\n' ∉ p.1.toList) :
    index.searchFile settings (written closed lines) =
      index.searchLines settings (lines.map Prod.fst) := by
  obtain ⟨kept, hread, hlines⟩ := exists_lines_written closed h
  have hkept : index.searchFile settings (written closed lines) = index.searchLines settings kept :=
    (searchLinesFrom_alike index settings (hread.imp fun _ _ => alike_of_readAs) 1).symm
  rcases hlines with he | he
  · rw [hkept, he]
  · rw [hkept, he, searchLines_append_empty]

/-- Reading a text leaves the tree as it is, and fails where there is no file or no text in it. -/
theorem run_readText (tree : Files.Tree) (path : String) :
    (Files.Access.onTree.readText path).run tree =
      ((tree.read path).bind fun bytes => (Text.ofUtf8? bytes).elim (.error .notText) .ok, tree) := by
  have hread : (Files.Access.onTree.read path).run tree = (tree.read path, tree) := rfl
  rw [Files.Access.readText, StateT.run_bind, hread]
  cases tree.read path with
  | error e => rfl
  | ok bytes =>
    dsimp only [bind, Except.bind]
    cases Text.ofUtf8? bytes <;> rfl

theorem ofUtf8?_utf8 (text : String) : Text.ofUtf8? (Text.utf8 text) = some text := by
  rw [Text.utf8, ofUtf8?_utf8Of, String.ofList_toList]

/-- A file that holds lines, each with a line feed or a carriage return and a line feed after it, and the
last one with or without, is read as its text and searched as the list of the lines is. -/
theorem searchFile_any_endings (lines : List (String × Ending)) (closed : Bool)
    (hlines : ∀ p ∈ lines, '\n' ∉ p.1.toList) {tree : Files.Tree} {path : String}
    (hfile : tree.read path = .ok (Text.utf8 (written closed lines))) :
    (Files.Access.onTree.readText path).run tree = (.ok (written closed lines), tree) ∧
      index.searchFile settings (written closed lines) =
        index.searchLines settings (lines.map Prod.fst) := by
  refine ⟨?_, searchFile_written index settings closed hlines⟩
  rw [run_readText, hfile, Except.bind, ofUtf8?_utf8]
  rfl

/-- A line that keeps its own carriage return, an empty line, and a line that is no query and ends the
file. -/
def mixedLines : List (String × Ending) :=
  [("grado \r", .feed), ("", .returnFeed), ("(grado", .returnFeed), ("", .feed)]

def mixedTree : Files.Tree :=
  .folder [("queries.txt", .file (.ok (Text.utf8 "grado \r\n\r\n(grado\r\n")))]

theorem searchFile_mixedLines :
    (∀ p ∈ mixedLines, '\n' ∉ p.1.toList) ∧
    mixedTree.read "queries.txt" = .ok (Text.utf8 (written false mixedLines)) ∧
    (Files.Access.onTree.readText "queries.txt").run mixedTree =
      (.ok "grado \r\n\r\n(grado\r\n", mixedTree) ∧
    twoDocuments.searchFile {} "grado \r\n\r\n(grado\r\n" =
      twoDocuments.searchLines {} ["grado \r", "", "(grado", ""] := by
  have hlines : ∀ p ∈ mixedLines, '\n' ∉ p.1.toList := by decide
  have hfile : mixedTree.read "queries.txt" = .ok (Text.utf8 (written false mixedLines)) := by rfl
  exact ⟨hlines, hfile, searchFile_any_endings twoDocuments {} mixedLines false hlines hfile⟩

end Concordance.Proofs.Index.QueryFiles
