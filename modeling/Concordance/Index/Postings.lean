/-!
Posting lists: the ids of the documents that hold a term, ascending and without repetition.

The three merges walk their lists once. On ascending lists they are intersection, union and complement;
on any other lists they still end, and give what the walk meets.
-/
namespace Concordance

/-- A document's place in its index, from 0. -/
abbrev DocumentId := Nat

/-- The ids of the documents that hold one term. -/
abbrev Postings := List DocumentId

namespace Postings

def intersect : Postings → Postings → Postings
  | [], _ => []
  | _ :: _, [] => []
  | x :: xs, y :: ys =>
    if x < y then intersect xs (y :: ys)
    else if y < x then intersect (x :: xs) ys
    else x :: intersect xs ys
termination_by xs ys => xs.length + ys.length

def union : Postings → Postings → Postings
  | [], ys => ys
  | x :: xs, [] => x :: xs
  | x :: xs, y :: ys =>
    if x < y then x :: union xs (y :: ys)
    else if y < x then y :: union (x :: xs) ys
    else x :: union xs ys
termination_by xs ys => xs.length + ys.length

/-- The `count` ids from `id` on, without those that come up at the head of `excluded`. -/
def gaps : Postings → DocumentId → Nat → Postings
  | _, _, 0 => []
  | [], id, count + 1 => id :: gaps [] (id + 1) count
  | x :: xs, id, count + 1 =>
    if x = id then gaps xs (id + 1) count else id :: gaps (x :: xs) (id + 1) count

/-- The ids below `size` that are not excluded. -/
def complement (excluded : Postings) (size : Nat) : Postings :=
  gaps excluded 0 size

/-- Whether every id is below the one after it. -/
def ascends : Postings → Bool
  | x :: y :: rest => decide (x < y) && ascends (y :: rest)
  | _ => true

end Postings

end Concordance
