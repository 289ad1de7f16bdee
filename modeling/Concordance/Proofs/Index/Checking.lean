import Concordance.Index.Soundness
import Concordance.Proofs.Index.Retrieval

/-!
# The check of an index

`check` visits documents and postings in some order and compares neighbours only. It accepts exactly
the sound indexes: that every id is below its neighbour already orders the whole list, and whether a
fault is found does not depend on the order in which the postings are visited, although which one is
found first may.
-/
namespace Concordance.Proofs.Index.Checking

open Concordance.Index Merging Building Retrieval

/-- Comparing neighbours is enough to order the whole list. -/
theorem ascends_iff (ids : Postings) : ids.ascends = true ↔ ids.Pairwise (· < ·) := by
  fun_induction Postings.ascends ids with
  | case1 x y rest ih =>
    rw [Bool.and_eq_true, decide_eq_true_eq, ih, List.pairwise_cons (a := x)]
    constructor
    · rintro ⟨hxy, h⟩
      refine ⟨fun z hz => ?_, h⟩
      rcases List.mem_cons.mp hz with rfl | hz
      · exact hxy
      · exact lt_trans hxy ((List.pairwise_cons.mp h).1 z hz)
    · rintro ⟨hx, h⟩
      exact ⟨hx y List.mem_cons_self, h⟩
  | case2 ids hshort =>
    match ids, hshort with
    | [], _ => simp
    | [x], _ => simp
    | x :: y :: rest, hshort => exact absurd rfl (hshort x y rest)

/-! ## What each part of the check accepts -/

theorem misnumbered?_eq_none_iff (position : Nat) (documents : List Document) :
    misnumbered? position documents = none ↔
      ∀ (i : Nat) (d : Document), documents[i]? = some d → d.id = position + i := by
  induction documents generalizing position with
  | nil => simp [misnumbered?]
  | cons d documents ih =>
    rw [misnumbered?]
    by_cases hd : d.id = position
    · rw [if_pos hd, ih]
      constructor
      · intro h i d' hi
        cases i with
        | zero => simp_all
        | succ i => exact (h i d' (by simpa using hi)).trans (Nat.succ_add_eq_add_succ position i)
      · intro h i d' hi
        exact (h (i + 1) d' (by simpa using hi)).trans (Nat.succ_add_eq_add_succ position i).symm
    · rw [if_neg hd]
      refine iff_of_false (Option.some_ne_none _) fun h => hd ?_
      simpa using h 0 d rfl

theorem badPostings?_eq_none_iff (size : Nat) (term : String) (ids : Postings) :
    badPostings? size term ids = none ↔ Within size ids := by
  rw [badPostings?]
  cases hf : ids.find? (fun id => decide (size ≤ id)) with
  | some id =>
    refine iff_of_false (Option.some_ne_none _) fun h => ?_
    have hlt := h.inRange id (List.mem_of_find?_eq_some hf)
    have hle := List.find?_some hf
    exact absurd (of_decide_eq_true hle) (not_le.mpr hlt)
  | none =>
    have hin : ∀ id ∈ ids, id < size := by simpa using List.find?_eq_none.mp hf
    by_cases ha : ids.ascends = true
    · simpa [ha] using ⟨(ascends_iff ids).mp ha, hin⟩
    · simpa [ha] using fun h : Within size ids => ha ((ascends_iff ids).mpr h.ascending)

/-- No fault is found if and only if there is none to find, in whatever order the postings are
visited. -/
theorem firstFault_eq_none_iff (entries : List (String × Postings)) (documents : Array Document) :
    firstFault entries documents = none ↔
      (∀ (i : Nat) (d : Document), documents[i]? = some d → d.id = i) ∧
        ∀ entry ∈ entries, Within documents.size entry.2 := by
  have hn := misnumbered?_eq_none_iff 0 documents.toList
  simp only [Array.getElem?_toList, Nat.zero_add] at hn
  rw [firstFault, ← hn]
  cases misnumbered? 0 documents.toList with
  | some fault => simp
  | none => simp only [List.findSome?_eq_none_iff, badPostings?_eq_none_iff, true_and]

/-! ## The whole check -/

theorem check_eq_ok_iff (index : Index) : index.check = .ok () ↔ Sound index := by
  have hcheck : index.check = .ok () ↔ firstFault index.postings.toList index.documents = none := by
    rw [check]
    cases firstFault index.postings.toList index.documents <;> simp
  rw [hcheck, firstFault_eq_none_iff]
  simp only [Prod.forall, Std.ExtTreeMap.mem_toList_iff_getElem?_eq_some]
  exact ⟨fun ⟨hn, hw⟩ => ⟨hn, fun t ids ht => (hw t ids ht).inRange,
      fun t ids ht => (hw t ids ht).ascending⟩,
    fun h => ⟨h.numbered, fun t ids ht => ⟨h.ascending t ids ht, h.inRange t ids ht⟩⟩⟩

/-- The postings of every word are in order; those of a word that is not there are empty. -/
theorem within_postingsFor {index : Index} (h : Sound index) (word : String) :
    Within index.size (index.postingsFor word) := by
  rw [postingsFor, Std.ExtTreeMap.getD_eq_getD_getElem?]
  cases ht : index.postings[Text.lowercase word]? with
  | none => exact ⟨List.Pairwise.nil, fun id hid => absurd hid List.not_mem_nil⟩
  | some ids => exact ⟨h.ascending _ ids ht, h.inRange _ ids ht⟩

/-! ## Built indexes -/

theorem getElem?_documentsOf (entries : List Entry) (i : Nat) :
    (documentsOf entries)[i]? =
      entries[i]?.map fun entry => Document.ofTokens i entry.title entry.url entry.tokens := by
  rw [documentsOf, List.getElem?_mapIdx]

/-- What is built is sound, and so it is accepted when it is read back. -/
theorem sound_ofEntries (entries : List Entry) : Sound (Index.ofEntries entries) := by
  have hholders : ∀ (term : String) (ids : Postings), (Index.ofEntries entries).postings[term]? = some ids →
      Within entries.length ids := by
    intro term ids hterm
    rw [postings_ofEntries] at hterm
    split_ifs at hterm
    obtain rfl := Option.some.inj hterm
    exact within_findIdxs entries _
  refine ⟨fun i d hd => ?_, fun term ids hterm => ?_, fun term ids hterm => (hholders term ids hterm).ascending⟩
  · rw [← Array.getElem?_toList, documents_ofEntries, getElem?_documentsOf] at hd
    obtain ⟨entry, -, rfl⟩ := Option.map_eq_some_iff.mp hd
    rfl
  · rw [size_ofEntries]
    exact (hholders term ids hterm).inRange

end Concordance.Proofs.Index.Checking
