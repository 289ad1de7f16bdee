import Concordance.Index.Basic
import Concordance.Query.Expr

/-!
The documents an expression is true of.
-/
namespace Concordance.Query.Expr

/-- Evaluates an expression on an index by merging the postings of its words. -/
def evaluate (index : Index) : Expr → Postings
  | word w => index.postingsFor w
  | not e => Postings.complement (e.evaluate index) index.size
  | and l r => Postings.intersect (l.evaluate index) (r.evaluate index)
  | or l r => Postings.union (l.evaluate index) (r.evaluate index)

end Concordance.Query.Expr
