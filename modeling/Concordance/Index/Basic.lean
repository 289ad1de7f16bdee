import Std.Data.ExtTreeMap
import Concordance.Document
import Concordance.Text.Lowercase

/-!
The inverted index: for every term the documents that hold it, and the documents themselves.
-/
namespace Concordance

/-- An index. Its terms are lowercase words, and its postings point into the table of documents. -/
structure Index where
  postings : Std.ExtTreeMap String Postings
  documents : Array Document
  deriving Inhabited

namespace Index

def empty : Index := ⟨∅, #[]⟩

/-- The postings of a word in lowercase; none when it was never indexed. -/
def postingsFor (index : Index) (word : String) : Postings :=
  index.postings.getD (Text.lowercase word) []

def size (index : Index) : Nat :=
  index.documents.size

def ids (index : Index) : Postings :=
  List.range index.size

def document? (index : Index) (id : DocumentId) : Option Document :=
  index.documents[id]?

end Index

end Concordance
