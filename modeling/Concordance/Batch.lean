import Concordance.Notice
import Concordance.Search
import Concordance.Text.Lines

/-!
Searching for many queries at once, one on each line.
-/
namespace Concordance

/-- What became of one line, counted from 1. If it is no query, `query` is the line without the blanks
around it. -/
structure LineAnswer where
  line : Nat
  query : String
  outcome : Except Query.Error (List Hit)

namespace LineAnswer

def notice? (e : LineAnswer) : Option Notice :=
  match e.outcome with
  | .ok _ => none
  | .error err => some ⟨"Retriever", toString e.line, "'" ++ e.query ++ "': " ++ err.message⟩

end LineAnswer

namespace Index

def searchLine (index : Index) (settings : Settings) (line : Nat) (text : String) : LineAnswer :=
  match Query.parse text with
  | .ok query => ⟨line, query.render, .ok (index.search settings query)⟩
  | .error err => ⟨line, Text.trim text, .error err⟩

/-- Searches for the query on each line, the first of them numbered `line`. Blank lines count, and have
no entry. -/
def searchLinesFrom (index : Index) (settings : Settings) (line : Nat) :
    List String → List LineAnswer
  | [] => []
  | text :: rest =>
    if Text.trim text = "" then searchLinesFrom index settings (line + 1) rest
    else index.searchLine settings line text :: searchLinesFrom index settings (line + 1) rest

def searchLines (index : Index) (settings : Settings) (lines : List String) : List LineAnswer :=
  index.searchLinesFrom settings 1 lines

def searchFile (index : Index) (settings : Settings) (text : String) : List LineAnswer :=
  index.searchLines settings (Text.lines text)

end Index

end Concordance
