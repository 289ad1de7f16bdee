import Concordance.Index.Basic

/-!
Building an index, one document after the other.

While documents arrive, everything is kept newest first, so that each document costs no more than its
own words; `build` turns the lists round.
-/
namespace Concordance

/-- An index in the making. Documents, and ids in postings, stand with the newest first; their number is the
id of the next one. -/
structure Index.Builder where
  postings : Std.ExtTreeMap String Postings
  documents : List Document
  size : Nat

namespace Index.Builder

def empty : Builder := ⟨∅, [], 0⟩

def post (id : DocumentId) (postings : Std.ExtTreeMap String Postings) (term : String) :
    Std.ExtTreeMap String Postings :=
  postings.insert term (id :: postings.getD term [])

/-- Adds a document, and answers its id. Each distinct token is posted once. -/
def add (builder : Builder) (title url : String) (tokens : List String) : DocumentId × Builder :=
  let id := builder.size
  let distinct : Tally Nat := .ofList tokens
  (id, {
    postings := distinct.keys.foldl (post id) builder.postings
    documents := .ofTokens id title url tokens :: builder.documents
    size := id + 1 })

def build (builder : Builder) : Index where
  postings := builder.postings.map (fun _ ids => ids.reverse)
  documents := builder.documents.reverse.toArray

end Index.Builder

/-- What is needed to add a document: its title, its URL and its tokens. -/
structure Entry where
  title : String
  url : String
  tokens : List String
  deriving Repr

def Index.ofEntries (entries : List Entry) : Index :=
  (entries.foldl (fun b e => (b.add e.title e.url e.tokens).2) Builder.empty).build

end Concordance
