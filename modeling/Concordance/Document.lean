import Concordance.Index.Postings
import Concordance.Tally
import Concordance.Text.Blank

/-!
Indexed documents.

A document keeps its normalized words as one text, joined by single spaces, and the Euclidean norm of
its word counts, by which scores are divided.
-/
namespace Concordance

structure Document where
  id : DocumentId
  title : String
  url : String
  text : String
  norm : Float
  deriving Repr, Inhabited

namespace Document

/-- The Euclidean norm of the counts of a list of words. They are counted in 32 bits, so a word that occurs
`2 ^ 32` times adds nothing. The squares are added exactly, and the sum is rounded once: below `2 ^ 53` doubles
add up to the same in any order. The sum over no words is a negative zero, and its root keeps the sign. -/
def normOf (words : List String) : Float :=
  match words with
  | [] => -0.0
  | _ =>
    let counts : Tally UInt32 := .ofList words
    (Float.ofNat counts.widen.sumSquares).sqrt

def ofTokens (id : DocumentId) (title url : String) (tokens : List String) : Document where
  id
  title
  url
  text := String.intercalate " " tokens
  norm := normOf tokens

def terms (d : Document) : List String :=
  Text.words d.text

def termCount (d : Document) (term : String) : Nat :=
  d.terms.count term

def containsTerm (d : Document) (term : String) : Bool :=
  d.terms.contains term

/-- The first `length` characters of the text, followed by dots if there are more. -/
def snippet (d : Document) (length : Nat) : String :=
  let text := d.text.toList
  if text.length ≤ length then d.text else String.ofList (text.take length) ++ "..."

end Document

end Concordance
