/-!
Sets of characters, written as the code points at which membership changes.
-/
namespace Concordance.Text

/-- A set of characters. Its `edges` ascend; at each of them membership changes, from outside at first. -/
structure CharSet where
  edges : List Nat
  deriving Repr

namespace CharSet

/-- Whether a code point that lies at or after an even (`inside = false`) or odd number of edges is in
the set, given the edges that remain. -/
def after (n : Nat) : Bool → List Nat → Bool
  | inside, [] => inside
  | inside, e :: edges => if n < e then inside else after n (!inside) edges

def contains (s : CharSet) (c : Char) : Bool :=
  after c.toNat false s.edges

end CharSet

end Concordance.Text
