import Concordance.Document
import Concordance.Text.Lowercase

/-!
How well a document answers a list of query terms.

The score is the cosine of the document's word counts and the query's, restricted to the query's terms
that occur. Its two sums are whole numbers; only the last step divides.
-/
namespace Concordance

/-- The two sums a score is made from: over the query terms, repetitions included, how often the term occurs in
the document; and over the distinct ones that occur, the square of how often the query repeats the term. -/
structure Score.Sums where
  hits : Nat
  weight : Nat
  deriving DecidableEq, Repr

namespace Score

/-- Adds what one distinct query term contributes, given how often the document and the query hold it. -/
def Sums.add (sums : Sums) (occurrences multiplicity : Nat) : Sums where
  hits := sums.hits + occurrences * multiplicity
  weight := if occurrences = 0 then sums.weight else sums.weight + multiplicity * multiplicity

/-- The sums for distinct lowercase terms with their multiplicities, visited in the given order. -/
def sumsOver (query : List (String × Nat)) (words : Tally Nat) : Sums :=
  query.foldl (fun sums entry => sums.add (words.count entry.1) entry.2) ⟨0, 0⟩

def sums (terms : List String) (document : Document) : Sums :=
  sumsOver (Tally.ofList (terms.map Text.lowercase)).toList (Tally.ofList document.terms)

/-- The score of a document: zero when no term occurs or the norm is zero. -/
def score (terms : List String) (document : Document) : Float :=
  let s := sums terms document
  if s.weight = 0 || document.norm == 0.0 then 0.0
  else Float.ofNat s.hits / (document.norm * (Float.ofNat s.weight).sqrt)

end Score

end Concordance
