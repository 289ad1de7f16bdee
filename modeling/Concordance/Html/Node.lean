/-!
Trees of HTML elements and text.

Names are those of the elements without their namespaces, in lowercase; comments and document types are
not kept.
-/
namespace Concordance.Html

structure Attribute where
  name : String
  value : String
  deriving DecidableEq, Repr

inductive Node where
  | text (content : String)
  | element (name : String) (attributes : List Attribute) (children : List Node)
  deriving Repr, Inhabited

namespace Node

def isNamed (wanted : String) : Node → Bool
  | text _ => false
  | element name _ _ => name = wanted

def children : Node → List Node
  | text _ => []
  | element _ _ children => children

end Node

mutual

/-- The first node, in document order, at or below a node that `p` holds of. -/
def Node.find? (p : Node → Bool) : Node → Option Node
  | .text content => if p (.text content) then some (.text content) else none
  | .element name attributes children =>
    if p (.element name attributes children) then some (.element name attributes children)
    else findIn? p children

def findIn? (p : Node → Bool) : List Node → Option Node
  | [] => none
  | n :: ns =>
    match n.find? p with
    | some found => some found
    | none => findIn? p ns

end

end Concordance.Html
