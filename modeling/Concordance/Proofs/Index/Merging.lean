import Mathlib.Data.List.Sort
import Concordance.Index.Postings

/-!
# Merges as set operations

Membership in `union` needs no order, and `intersect` only ever leaves ids out. The other facts
hold of ascending lists: there the three walks are union, intersection and complement, and their
results ascend again, so that merges may be nested.
-/
namespace Concordance.Proofs.Index.Merging

open Postings

structure Within (size : Nat) (ids : Postings) : Prop where
  ascending : ids.Pairwise (· < ·)
  inRange : ∀ id ∈ ids, id < size

/-- Below the head of an ascending list there are no members. -/
theorem not_mem_of_lt_head {i y : DocumentId} {ys : Postings}
    (hy : (y :: ys).Pairwise (· < ·)) (hi : i < y) : i ∉ y :: ys := by
  intro hm
  rcases List.mem_cons.mp hm with rfl | hm
  · exact lt_irrefl i hi
  · exact lt_asymm hi ((List.pairwise_cons.mp hy).1 i hm)

/-! ## Union -/

/-- Every id of either list is in the union, and no other, in whatever order they stand. -/
@[simp] theorem mem_union (xs ys : Postings) (i : DocumentId) :
    i ∈ union xs ys ↔ i ∈ xs ∨ i ∈ ys := by
  fun_induction union xs ys with
  | case1 ys => simp
  | case2 x xs => simp
  | case3 x xs y ys hlt ih => rw [List.mem_cons, ih]; simp only [List.mem_cons, or_assoc]
  | case4 x xs y ys hlt hgt ih =>
    rw [List.mem_cons, ih]
    simp only [List.mem_cons, or_left_comm]
  | case5 x xs y ys hlt hgt ih =>
    obtain rfl : x = y := le_antisymm (not_lt.mp hgt) (not_lt.mp hlt)
    rw [List.mem_cons, ih]
    simp only [List.mem_cons, or_assoc, or_left_comm, or_self_left]

theorem union_ascending {xs ys : Postings} (hx : xs.Pairwise (· < ·))
    (hy : ys.Pairwise (· < ·)) : (union xs ys).Pairwise (· < ·) := by
  fun_induction union xs ys with
  | case1 ys => exact hy
  | case2 x xs => exact hx
  | case3 x xs y ys hlt ih =>
    obtain ⟨hxs, hx'⟩ := List.pairwise_cons.mp hx
    refine List.pairwise_cons.mpr ⟨fun i hi => ?_, ih hx' hy⟩
    rcases (mem_union xs (y :: ys) i).mp hi with hi | hi
    · exact hxs i hi
    · by_contra hn
      exact not_mem_of_lt_head hy (lt_of_le_of_lt (not_lt.mp hn) hlt) hi
  | case4 x xs y ys hlt hgt ih =>
    obtain ⟨hys, hy'⟩ := List.pairwise_cons.mp hy
    refine List.pairwise_cons.mpr ⟨fun i hi => ?_, ih hx hy'⟩
    rcases (mem_union (x :: xs) ys i).mp hi with hi | hi
    · by_contra hn
      exact not_mem_of_lt_head hx (lt_of_le_of_lt (not_lt.mp hn) hgt) hi
    · exact hys i hi
  | case5 x xs y ys hlt hgt ih =>
    obtain rfl : x = y := le_antisymm (not_lt.mp hgt) (not_lt.mp hlt)
    obtain ⟨hxs, hx'⟩ := List.pairwise_cons.mp hx
    obtain ⟨hys, hy'⟩ := List.pairwise_cons.mp hy
    refine List.pairwise_cons.mpr ⟨fun i hi => ?_, ih hx' hy'⟩
    rcases (mem_union xs ys i).mp hi with hi | hi
    · exact hxs i hi
    · exact hys i hi

/-! ## Intersection -/

/-- The walk only leaves ids of the first list out. -/
theorem intersect_sublist (xs ys : Postings) : (intersect xs ys).Sublist xs := by
  fun_induction intersect xs ys with
  | case1 ys => exact List.Sublist.refl []
  | case2 x xs => exact List.nil_sublist _
  | case3 x xs y ys hlt ih => exact ih.cons x
  | case4 x xs y ys hlt hgt ih => exact ih
  | case5 x xs y ys hlt hgt ih => exact ih.cons_cons x

theorem mem_intersect {xs ys : Postings} (hx : xs.Pairwise (· < ·)) (hy : ys.Pairwise (· < ·))
    (i : DocumentId) : i ∈ intersect xs ys ↔ i ∈ xs ∧ i ∈ ys := by
  fun_induction intersect xs ys with
  | case1 ys => simp
  | case2 x xs => simp
  | case3 x xs y ys hlt ih =>
    -- the smaller head is in no other list, so dropping it loses nothing
    have hxy : x ∉ y :: ys := not_mem_of_lt_head hy hlt
    rw [ih (List.pairwise_cons.mp hx).2 hy, List.mem_cons (a := i) (b := x)]
    constructor
    · rintro ⟨hi, hi'⟩
      exact ⟨Or.inr hi, hi'⟩
    · rintro ⟨rfl | hi, hi'⟩
      · exact absurd hi' hxy
      · exact ⟨hi, hi'⟩
  | case4 x xs y ys hlt hgt ih =>
    have hyx : y ∉ x :: xs := not_mem_of_lt_head hx hgt
    rw [ih hx (List.pairwise_cons.mp hy).2, List.mem_cons (a := i) (b := y)]
    constructor
    · rintro ⟨hi, hi'⟩
      exact ⟨hi, Or.inr hi'⟩
    · rintro ⟨hi, rfl | hi'⟩
      · exact absurd hi hyx
      · exact ⟨hi, hi'⟩
  | case5 x xs y ys hlt hgt ih =>
    obtain rfl : x = y := le_antisymm (not_lt.mp hgt) (not_lt.mp hlt)
    obtain ⟨hxs, hx'⟩ := List.pairwise_cons.mp hx
    obtain ⟨hys, hy'⟩ := List.pairwise_cons.mp hy
    simp only [List.mem_cons, ih hx' hy']
    exact or_and_left

/-! ## Complement -/

theorem gaps_inRange (ids : Postings) (start count : Nat) :
    ∀ i ∈ gaps ids start count, start ≤ i ∧ i < start + count := by
  fun_induction gaps ids start count with
  | case1 ids start => simp
  | case2 start count ih =>
    intro i hi
    rcases List.mem_cons.mp hi with rfl | hi
    · grind
    · have := ih i hi
      grind
  | case3 ids start count ih =>
    intro i hi
    have := ih i hi
    grind
  | case4 x ids start count hne ih =>
    intro i hi
    rcases List.mem_cons.mp hi with rfl | hi
    · grind
    · have := ih i hi
      grind

/-- The ids that are left ascend, whatever is excluded. -/
theorem gaps_ascending (ids : Postings) (start count : Nat) :
    (gaps ids start count).Pairwise (· < ·) := by
  fun_induction gaps ids start count with
  | case1 ids start => exact List.Pairwise.nil
  | case2 start count ih =>
    refine List.pairwise_cons.mpr ⟨fun i hi => ?_, ih⟩
    exact (gaps_inRange [] (start + 1) count i hi).1
  | case3 ids start count ih => exact ih
  | case4 x ids start count hne ih =>
    refine List.pairwise_cons.mpr ⟨fun i hi => ?_, ih⟩
    exact (gaps_inRange (x :: ids) (start + 1) count i hi).1

/-- The walk from `start` on leaves out exactly the excluded ids, if none of them was passed
before. -/
theorem mem_gaps {ids : Postings} {start : Nat} (count : Nat) (h : ids.Pairwise (· < ·))
    (hs : ∀ id ∈ ids, start ≤ id) (i : DocumentId) :
    i ∈ gaps ids start count ↔ start ≤ i ∧ i < start + count ∧ i ∉ ids := by
  fun_induction gaps ids start count with
  | case1 ids start =>
    constructor
    · exact fun hi => absurd hi List.not_mem_nil
    · rintro ⟨hle, hlt, -⟩
      exact absurd hlt (not_lt.mpr hle)
  | case2 start count ih =>
    rw [List.mem_cons, ih h (by simp)]
    simp only [List.not_mem_nil, not_false_eq_true, and_true]
    grind
  | case3 ids start count ih =>
    obtain ⟨hids, h'⟩ := List.pairwise_cons.mp h
    rw [ih h' hids, List.mem_cons]
    grind
  | case4 x ids start count hne ih =>
    obtain ⟨hids, h'⟩ := List.pairwise_cons.mp h
    have hlt : start < x := by have := hs x List.mem_cons_self; grind
    have hs' : ∀ id ∈ x :: ids, start + 1 ≤ id := by
      intro id hid
      by_contra hn
      exact not_mem_of_lt_head h (by grind) hid
    have hstart : start ∉ x :: ids := not_mem_of_lt_head h hlt
    rw [List.mem_cons, ih h hs']
    constructor
    · rintro (rfl | ⟨hle, hlt, hn⟩)
      · exact ⟨by grind, by grind, hstart⟩
      · exact ⟨by grind, by grind, hn⟩
    · rintro ⟨hle, hlt, hn⟩
      by_cases he : i = start
      · exact Or.inl he
      · exact Or.inr ⟨by grind, by grind, hn⟩

theorem mem_complement {ids : Postings} (h : ids.Pairwise (· < ·)) (size : Nat)
    (i : DocumentId) : i ∈ complement ids size ↔ i < size ∧ i ∉ ids := by
  rw [complement, mem_gaps size h (fun _ _ => Nat.zero_le _)]
  simp

/-! ## Nesting -/

theorem within_union {size : Nat} {xs ys : Postings} (hx : Within size xs)
    (hy : Within size ys) : Within size (union xs ys) where
  ascending := union_ascending hx.ascending hy.ascending
  inRange id hid := ((mem_union xs ys id).mp hid).elim (hx.inRange id) (hy.inRange id)

theorem within_intersect {size : Nat} {xs ys : Postings} (hx : Within size xs) :
    Within size (intersect xs ys) where
  ascending := hx.ascending.sublist (intersect_sublist xs ys)
  inRange id hid := hx.inRange id ((intersect_sublist xs ys).subset hid)

theorem within_complement (ids : Postings) (size : Nat) : Within size (complement ids size) where
  ascending := gaps_ascending ids 0 size
  inRange id hid := by have := (gaps_inRange ids 0 size id hid).2; grind

end Concordance.Proofs.Index.Merging
