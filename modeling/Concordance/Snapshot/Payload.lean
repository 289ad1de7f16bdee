import Concordance.Index.Basic
import Concordance.Json.Record
import Concordance.Json.Value

/-!
Indexes and documents as JSON: the payload of a snapshot.
-/
namespace Concordance

namespace Document

/-- The document as an object; its members keep this order. -/
def toJson (d : Document) : Json.Value :=
  .object [("id", .natural d.id), ("title", .text d.title), ("url", .text d.url),
    ("text", .text d.text), ("norm", .real d.norm)]

structure Partial where
  id : Option Nat := none
  title : Option String := none
  url : Option String := none
  text : Option String := none
  norm : Option Float := none

def jsonRecord : Json.Record Partial Document where
  title := "struct Document"
  needed := 5
  start := {}
  fields := [
    { name := "id", taken := fun p => p.id.isSome,
      read := fun p => do pure { p with id := some (← Json.Reader.natural) } },
    { name := "title", taken := fun p => p.title.isSome,
      read := fun p => do pure { p with title := some (← Json.Reader.text) } },
    { name := "url", taken := fun p => p.url.isSome,
      read := fun p => do pure { p with url := some (← Json.Reader.text) } },
    { name := "text", taken := fun p => p.text.isSome,
      read := fun p => do pure { p with text := some (← Json.Reader.text) } },
    { name := "norm", keys := ["norm", "length_norm"], taken := fun p => p.norm.isSome,
      read := fun p => do pure { p with norm := some (← Json.Reader.real) } }]
  finish := fun p => do
    let id ← Json.required "id" p.id
    let title ← Json.required "title" p.title
    let url ← Json.required "url" p.url
    let text ← Json.required "text" p.text
    let norm ← Json.required "norm" p.norm
    pure ⟨id, title, url, text, norm⟩

def ofJson (bytes : Bytes) : Except Json.Fault Document :=
  Json.Reader.whole jsonRecord.reader bytes

end Document

namespace Index

/-- The index as an object; its terms are written in ascending order. -/
def toJson (index : Index) : Json.Value :=
  .object [
    ("postings", .object (index.postings.toList.map fun entry =>
      (entry.1, .list (entry.2.map .natural)))),
    ("documents", .list (index.documents.toList.map Document.toJson))]

/-- The table of postings with the given entries; of two entries for a term the later one counts. -/
def postingsOf (entries : List (String × Postings)) : Std.ExtTreeMap String Postings :=
  entries.foldl (fun table entry => table.insert entry.1 entry.2) ∅

structure Partial where
  postings : Option (Std.ExtTreeMap String Postings) := none
  documents : Option (Array Document) := none

def jsonRecord : Json.Record Partial Index where
  title := "struct Index"
  needed := 2
  start := {}
  fields := [
    { name := "postings", taken := fun p => p.postings.isSome,
      read := fun p => do
        let entries ← Json.Reader.map (Json.Reader.list Json.Reader.natural)
        pure { p with postings := some (postingsOf entries) } },
    { name := "documents", taken := fun p => p.documents.isSome,
      read := fun p => do
        let documents ← Json.Reader.list Document.jsonRecord.reader
        pure { p with documents := some documents.toArray } }]
  finish := fun p => do
    let postings ← Json.required "postings" p.postings
    let documents ← Json.required "documents" p.documents
    pure ⟨postings, documents⟩

/-- The index a JSON text stands for. Its structure is not checked. -/
def ofJson (bytes : Bytes) : Except Json.Fault Index :=
  Json.Reader.whole jsonRecord.reader bytes

end Index

end Concordance
