import Concordance.Index.Basic

/-!
Which indexes may be searched: those whose documents are numbered by their places, and whose postings
ascend and point to documents. `check` refuses all others and names the first fault.
-/
namespace Concordance.Index

inductive Fault where
  | misnumbered (position : Nat) (id : DocumentId)
  | unknownDocument (term : String) (id : DocumentId)
  | notAscending (term : String)
  deriving DecidableEq, Repr

def Fault.message : Fault → String
  | misnumbered position id => s!"document at position {position} has id {id}"
  | unknownDocument term id => "postings for '" ++ term ++ s!"' reference unknown document {id}"
  | notAscending term => "postings for '" ++ term ++ "' are not strictly ascending"

/-- The first document, from a position on, that is not numbered by its place. -/
def misnumbered? : Nat → List Document → Option Fault
  | _, [] => none
  | position, d :: rest =>
    if d.id = position then misnumbered? (position + 1) rest else some (.misnumbered position d.id)

/-- What is wrong with the postings of a term in an index of `size` documents. -/
def badPostings? (size : Nat) (term : String) (ids : Postings) : Option Fault :=
  match ids.find? (fun id => size ≤ id) with
  | some id => some (.unknownDocument term id)
  | none => if ids.ascends then none else some (.notAscending term)

/-- The first fault of an index whose postings are visited in the given order. -/
def firstFault (entries : List (String × Postings)) (documents : Array Document) : Option Fault :=
  match misnumbered? 0 documents.toList with
  | some fault => some fault
  | none => entries.findSome? (fun entry => badPostings? documents.size entry.1 entry.2)

def check (index : Index) : Except Fault Unit :=
  match firstFault index.postings.toList index.documents with
  | some fault => .error fault
  | none => .ok ()

/-- The structure an index must have: every document is numbered by its place, and all postings ascend
strictly and stay below the number of documents. -/
structure Sound (index : Index) : Prop where
  numbered : ∀ (i : Nat) (d : Document), index.documents[i]? = some d → d.id = i
  inRange : ∀ (term : String) (ids : Postings), index.postings[term]? = some ids →
    ∀ id ∈ ids, id < index.size
  ascending : ∀ (term : String) (ids : Postings), index.postings[term]? = some ids →
    ids.Pairwise (· < ·)

end Concordance.Index
