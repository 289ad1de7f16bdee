import Concordance.Decimal.Layout
import Concordance.Query.Evaluate
import Concordance.Query.Parser
import Concordance.Score
import Concordance.Settings

/-!
Ranked search.

The documents an expression is true of are scored and sorted, the highest score first and among equal
scores the lowest id first; the first `maxResults` of them are the results.
-/
namespace Concordance

/-- The place of a number in the total order of all doubles: -0 comes before 0, and the rest by value. All
that is not a number is one double here and stands last, whatever its sign. -/
def Score.place (x : Float) : Int :=
  let bits := x.toBits.toNat
  if bits < Decimal.signBit then bits else (Decimal.signBit : Int) - 1 - (bits : Int)

structure Match where
  id : DocumentId
  score : Float
  deriving Repr

/-- Whether the first of two matches may stand before the second. -/
def Match.before (a b : Match) : Bool :=
  decide (Score.place b.score < Score.place a.score) ||
    (decide (Score.place a.score = Score.place b.score) && decide (a.id ≤ b.id))

structure Hit where
  id : DocumentId
  url : String
  snippet : String
  score : Float
  deriving Repr, Inhabited

def Hit.display (h : Hit) : String :=
  "(" ++ Decimal.render h.score ++ ") " ++ h.url ++ " -> " ++ h.snippet

namespace Index

/-- All matches of an expression, in the order of its evaluation. Ids without a document are dropped. -/
def matched (index : Index) (query : Query.Expr) : List Match :=
  let terms := query.terms
  (query.evaluate index).filterMap fun id =>
    (index.document? id).map fun d => ⟨id, Score.score terms d⟩

def present? (index : Index) (settings : Settings) (m : Match) : Option Hit :=
  (index.document? m.id).map fun d => ⟨m.id, d.url, d.snippet settings.snippetLength, m.score⟩

def search (index : Index) (settings : Settings) (query : Query.Expr) : List Hit :=
  (((index.matched query).mergeSort Match.before).take settings.maxResults).filterMap
    (index.present? settings)

def searchText (index : Index) (settings : Settings) (query : String) :
    Except Query.Error (List Hit) :=
  (Query.parse query).map (index.search settings)

end Index

end Concordance
