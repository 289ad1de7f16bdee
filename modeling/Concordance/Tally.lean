import Std.Data.ExtTreeMap

/-!
Counting how often each word occurs.

The counts are numbers of any kind. Numbers with a limited number of bits go round: one more than the
largest of them is zero.
-/
namespace Concordance

/-- How often each word of a list occurs in it. Words that do not occur have no entry. -/
abbrev Tally (α : Type) := Std.ExtTreeMap String α

namespace Tally

section

variable {α : Type} [OfNat α 0] [OfNat α 1] [Add α]

def add (counts : Tally α) (word : String) : Tally α :=
  counts.insert word (counts.getD word 0 + 1)

def ofList (words : List String) : Tally α :=
  words.foldl add ∅

def count (counts : Tally α) (word : String) : α :=
  counts.getD word 0

end

/-- The counts as numbers without bound. -/
def widen (counts : Tally UInt32) : Tally Nat :=
  counts.map fun _ count => count.toNat

def sumSquares (counts : Tally Nat) : Nat :=
  counts.toList.foldr (fun entry sum => entry.2 * entry.2 + sum) 0

end Tally

end Concordance
