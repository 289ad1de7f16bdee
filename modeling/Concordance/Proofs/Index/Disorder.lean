import Concordance.Proofs.Index.Merging

/-!
# Merges of lists in disorder

An index that was never checked may hold postings in any order and with repetitions, and the merges walk
those too. What they find then is bounded on one side: a union still has the ids of both lists and no
others, an intersection has no id that is not in both, and a complement misses no id that it should have.
Only the other half of an intersection and of a complement needs the lists to ascend. A complement
counts upwards by itself, so it ascends and stays in range whatever it is given.
-/
namespace Concordance.Proofs.Index.Disorder

open Postings Merging

/-- The walk only leaves ids of the second list out. -/
theorem intersect_sublist_right (xs ys : Postings) : (intersect xs ys).Sublist ys := by
  fun_induction intersect xs ys with
  | case1 ys => exact List.nil_sublist ys
  | case2 x xs => exact List.Sublist.refl []
  | case3 x xs y ys hlt ih => exact ih
  | case4 x xs y ys hlt hgt ih => exact ih.cons y
  | case5 x xs y ys hlt hgt ih =>
    obtain rfl : x = y := le_antisymm (not_lt.mp hgt) (not_lt.mp hlt)
    exact ih.cons_cons x

/-- An id is only passed over when it stands in the list, so every other id of the range is kept. -/
theorem mem_gaps_of_not_mem {ids : Postings} {start count i : Nat} (hle : start ≤ i)
    (hlt : i < start + count) (hi : i ∉ ids) : i ∈ gaps ids start count := by
  fun_induction gaps ids start count with
  | case1 ids start => exact absurd hlt (not_lt.mpr hle)
  | case2 start count ih =>
    rcases Nat.eq_or_lt_of_le hle with rfl | hle
    · exact List.mem_cons_self
    · exact List.mem_cons_of_mem _ (ih hle (by omega) hi)
  | case3 ids start count ih =>
    have hne : i ≠ start := List.ne_of_not_mem_cons hi
    exact ih (Nat.lt_of_le_of_ne hle hne.symm) (by omega) (List.not_mem_of_not_mem_cons hi)
  | case4 x ids start count hne ih =>
    rcases Nat.eq_or_lt_of_le hle with rfl | hle
    · exact List.mem_cons_self
    · exact List.mem_cons_of_mem _ (ih hle (by omega) hi)

/-- Whatever two lists of ids hold, in whatever order and however often: their union has exactly the ids
of both, their intersection stands in each of them in the same order, and the complement of the first
ascends, stays below `size` and has all ids there that the list does not have. If the first list ascends,
its complement has no others, also when the list goes beyond `size`; and if both ascend, so do
intersection and union, which have exactly the common and exactly all ids. -/
theorem merges_of_any_lists (xs ys : Postings) (size : Nat) :
    (∀ i, i ∈ union xs ys ↔ i ∈ xs ∨ i ∈ ys) ∧
    (intersect xs ys).Sublist xs ∧ (intersect xs ys).Sublist ys ∧
    (complement xs size).Pairwise (· < ·) ∧ (∀ i ∈ complement xs size, i < size) ∧
    (∀ i, i < size → i ∉ xs → i ∈ complement xs size) ∧
    (xs.Pairwise (· < ·) → ∀ i, i ∈ complement xs size ↔ i < size ∧ i ∉ xs) ∧
    (xs.Pairwise (· < ·) → ys.Pairwise (· < ·) →
      (intersect xs ys).Pairwise (· < ·) ∧ (∀ i, i ∈ intersect xs ys ↔ i ∈ xs ∧ i ∈ ys) ∧
      (union xs ys).Pairwise (· < ·) ∧ ∀ i, i ∈ union xs ys ↔ i ∈ xs ∨ i ∈ ys) := by
  have hcomplement := within_complement xs size
  refine ⟨mem_union xs ys, intersect_sublist xs ys, intersect_sublist_right xs ys,
    hcomplement.ascending, hcomplement.inRange, fun i hlt hi => ?_, fun hx => mem_complement hx size,
    fun hx hy => ?_⟩
  · exact mem_gaps_of_not_mem (Nat.zero_le i) (by rwa [Nat.zero_add]) hi
  · exact ⟨hx.sublist (intersect_sublist xs ys), mem_intersect hx hy, union_ascending hx hy,
      mem_union xs ys⟩

/-- Ascending lists that go beyond the four documents. -/
theorem merges_beyond_range :
    [1, 3, 9].Pairwise (· < ·) ∧ [3, 5, 9].Pairwise (· < ·) ∧
      0 ∈ complement [1, 3, 9] 4 ∧ 3 ∉ complement [1, 3, 9] 4 ∧
      9 ∈ intersect [1, 3, 9] [3, 5, 9] ∧ (union [1, 3, 9] [3, 5, 9]).Pairwise (· < ·) := by
  have hx : [1, 3, 9].Pairwise (· < ·) := by decide
  have hy : [3, 5, 9].Pairwise (· < ·) := by decide
  obtain ⟨-, -, -, -, -, hkept, hcomplement, hboth⟩ := merges_of_any_lists [1, 3, 9] [3, 5, 9] 4
  obtain ⟨-, hcommon, hascending, -⟩ := hboth hx hy
  refine ⟨hx, hy, hkept 0 (by decide) (by decide), fun h => ?_, (hcommon 9).mpr (by decide), hascending⟩
  exact absurd ((hcomplement hx 3).mp h).2 (by decide)

/-- Where the order is missing, common ids may be lost and excluded ones kept. -/
example : intersect [2, 1] [1, 2] = [2] ∧ complement [1, 0] 2 = [0] := by
  constructor
  · simp [intersect]
  · rfl

end Concordance.Proofs.Index.Disorder
