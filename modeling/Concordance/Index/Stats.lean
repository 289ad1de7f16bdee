import Concordance.Decimal.Layout
import Concordance.Index.Basic

/-!
Figures about an index.
-/
namespace Concordance.Index

/-- The number of terms, the number of documents, and how long building took, in nanoseconds. -/
structure Stats where
  terms : Nat
  documents : Nat
  nanoseconds : Nat
  deriving DecidableEq, Repr

/-- The figures of an index. It does not know how long it took to build. -/
def stats (index : Index) : Stats :=
  ⟨index.postings.size, index.size, 0⟩

/-- The building time in seconds: the whole seconds, and the fraction rounded on its own. -/
def Stats.seconds (stats : Stats) : Float :=
  Float.ofNat (stats.nanoseconds / 1000000000) +
    Float.ofNat (stats.nanoseconds % 1000000000) / 1000000000.0

def Stats.display (stats : Stats) : String :=
  "Words: " ++ toString stats.terms ++ "\nDocs: " ++ toString stats.documents ++ "\nTime: " ++
    Decimal.render stats.seconds

end Concordance.Index
