import Concordance.Proofs.Decimal.Sums
import Concordance.Proofs.Score.Regrouping

/-!
# Queries without negation score what they find

Evaluation looks words up in the postings, and the score counts them in the documents' texts. On a built
index both find the same documents. An expression without negation is true of a document only if one of
its words is, so the sums of its score are not zero, and the score is a proper quotient.
-/
namespace Concordance.Proofs.Score.Agreement

open Concordance.Query Counting Regrouping
open Decimal.Quotients Decimal.Sums Index.Building Index.Contents Index.Norms Index.Retrieval Text.Words

/-! ## Expressions without negation -/

/-- How often the query repeats the terms that occur, in the order in which they are visited. -/
def shared (query : List (String × Nat)) (d : Document) : List Nat :=
  (query.filter fun entry => decide (entry.1 ∈ d.terms)).map Prod.snd

end Concordance.Proofs.Score.Agreement
