import Concordance.Proofs.Index.Checking

/-!
# The check in any order

The table of postings has no order of its own, so the check may visit its terms in any. Whether an index
is accepted does not depend on that: the documents have to be numbered by their places, and the postings
to point to documents and to ascend from each place to every later one. Which fault a refused index is
reported with does depend on it, since any term with faulty postings may come first, but whatever is
reported is there.
-/
namespace Concordance.Proofs.Index.AnyOrder

open Concordance.Index Merging Checking

/-- The outcome of the check if the postings are visited in the given order. -/
def checkVisiting (visits : List (String × Postings)) (index : Index) : Except Fault Unit :=
  match firstFault visits index.documents with
  | some fault => .error fault
  | none => .ok ()

theorem check_eq_checkVisiting (index : Index) :
    index.check = checkVisiting index.postings.toList index := rfl

/-- What a fault says is so in the index. -/
def Present (index : Index) : Fault → Prop
  | .misnumbered position id =>
    ∃ d, index.documents[position]? = some d ∧ d.id = id ∧ id ≠ position
  | .unknownDocument term id =>
    ∃ ids, index.postings[term]? = some ids ∧ id ∈ ids ∧ index.documents.size ≤ id
  | .notAscending term => ∃ ids, index.postings[term]? = some ids ∧ ¬ ids.Pairwise (· < ·)

/-! ## Accepted indexes -/

/-- A list is in order if each id is below all that come after it, by their places. -/
theorem pairwise_lt_iff_places (ids : Postings) : ids.Pairwise (· < ·) ↔
    ∀ (p q : Nat) (x y : DocumentId), p < q → ids[p]? = some x → ids[q]? = some y → x < y := by
  rw [List.pairwise_iff_getElem]
  constructor
  · intro h p q x y hpq hp hq
    obtain ⟨hplt, rfl⟩ := List.getElem?_eq_some_iff.mp hp
    obtain ⟨hqlt, rfl⟩ := List.getElem?_eq_some_iff.mp hq
    exact h p q hplt hqlt hpq
  · intro h p q hp hq hpq
    exact h p q _ _ hpq (List.getElem?_eq_getElem hp) (List.getElem?_eq_getElem hq)

theorem checkVisiting_eq_ok_iff (visits : List (String × Postings)) (index : Index) :
    checkVisiting visits index = .ok () ↔ firstFault visits index.documents = none := by
  rw [checkVisiting]
  cases firstFault visits index.documents <;> simp

theorem checkVisiting_eq_error_iff (visits : List (String × Postings)) (index : Index) (fault : Fault) :
    checkVisiting visits index = .error fault ↔ firstFault visits index.documents = some fault := by
  rw [checkVisiting]
  cases firstFault visits index.documents <;> simp

/-! ## Reported faults -/

theorem exists_of_misnumbered? {position : Nat} {documents : List Document} {fault : Fault}
    (h : misnumbered? position documents = some fault) :
    ∃ (i : Nat) (d : Document), documents[i]? = some d ∧ d.id ≠ position + i ∧
      fault = .misnumbered (position + i) d.id := by
  induction documents generalizing position with
  | nil => cases h
  | cons d documents ih =>
    rw [misnumbered?] at h
    split_ifs at h with hd
    · obtain ⟨i, d', hi, hne, rfl⟩ := ih h
      have hplace : position + 1 + i = position + (i + 1) := Nat.succ_add_eq_add_succ position i
      rw [hplace] at hne ⊢
      exact ⟨i + 1, d', hi, hne, rfl⟩
    · exact ⟨0, d, rfl, hd, (Option.some.inj h).symm⟩

theorem present_of_badPostings? {index : Index} {term : String} {ids : Postings} {fault : Fault}
    (hterm : index.postings[term]? = some ids)
    (h : badPostings? index.documents.size term ids = some fault) : Present index fault := by
  rw [badPostings?] at h
  split at h
  · rename_i id hfind
    obtain rfl := Option.some.inj h
    have hbeyond := List.find?_some hfind
    exact ⟨ids, hterm, List.mem_of_find?_eq_some hfind, of_decide_eq_true hbeyond⟩
  · split_ifs at h with hascends
    obtain rfl := Option.some.inj h
    exact ⟨ids, hterm, mt (ascends_iff ids).mpr hascends⟩

theorem present_of_firstFault {visits : List (String × Postings)} {index : Index} {fault : Fault}
    (hvisits : ∀ entry ∈ visits, index.postings[entry.1]? = some entry.2)
    (h : firstFault visits index.documents = some fault) : Present index fault := by
  rw [firstFault] at h
  split at h
  · rename_i misnumbered hmisnumbered
    obtain ⟨i, d, hd, hne, he⟩ := exists_of_misnumbered? hmisnumbered
    obtain rfl := Option.some.inj h
    rw [Nat.zero_add] at hne he
    rw [he]
    exact ⟨d, by rwa [Array.getElem?_toList] at hd, rfl, hne⟩
  · obtain ⟨entry, hentry, hbad⟩ := List.exists_of_findSome?_eq_some h
    exact present_of_badPostings? (hvisits entry hentry) hbad

/-! ## Orders -/

/-- The terms in any order: each with its postings, and none twice. -/
theorem getElem?_of_mem_visits {index : Index} {visits : List (String × Postings)}
    (h : visits.Perm index.postings.toList) (term : String) (ids : Postings) :
    (term, ids) ∈ visits ↔ index.postings[term]? = some ids :=
  h.mem_iff.trans Std.ExtTreeMap.mem_toList_iff_getElem?_eq_some

/-- A term that is visited first is the one that is reported, if its postings are faulty. -/
theorem exists_visits_reporting {index : Index} {term : String} {ids : Postings} {fault : Fault}
    (hnumbered : ∀ (i : Nat) (d : Document), index.documents[i]? = some d → d.id = i)
    (hterm : index.postings[term]? = some ids)
    (h : badPostings? index.documents.size term ids = some fault) :
    ∃ visits : List (String × Postings), visits.Perm index.postings.toList ∧
      checkVisiting visits index = .error fault := by
  have hmem : (term, ids) ∈ index.postings.toList :=
    Std.ExtTreeMap.mem_toList_iff_getElem?_eq_some.mpr hterm
  refine ⟨(term, ids) :: index.postings.toList.erase (term, ids), (List.perm_cons_erase hmem).symm, ?_⟩
  have hnone : misnumbered? 0 index.documents.toList = none := by
    rw [misnumbered?_eq_none_iff]
    simpa using hnumbered
  rw [checkVisiting_eq_error_iff, firstFault, hnone]
  dsimp only
  rw [List.findSome?_cons, h]

/-- In whatever order the postings are visited: the check accepts an index exactly if every document is
numbered by its place and all postings stay below the number of documents and ascend, each id being
below those at all later places and not only below the next. So it accepts in all orders or in none. A
fault that it reports is one of the index, but another order may report that of another term. -/
theorem check_in_any_order {index : Index} {visits : List (String × Postings)}
    (h : visits.Perm index.postings.toList) :
    (checkVisiting visits index = .ok () ↔
      (∀ (i : Nat) (d : Document), index.documents[i]? = some d → d.id = i) ∧
      ∀ (term : String) (ids : Postings), index.postings[term]? = some ids →
        (∀ id ∈ ids, id < index.documents.size) ∧
        ∀ (p q : Nat) (x y : DocumentId), p < q → ids[p]? = some x → ids[q]? = some y → x < y) ∧
    (checkVisiting visits index = .ok () ↔ index.check = .ok ()) ∧
    (∀ fault, checkVisiting visits index = .error fault → Present index fault) ∧
    ∀ (term : String) (ids : Postings) (fault : Fault),
      (∀ (i : Nat) (d : Document), index.documents[i]? = some d → d.id = i) →
      index.postings[term]? = some ids → badPostings? index.documents.size term ids = some fault →
        ∃ others : List (String × Postings), others.Perm index.postings.toList ∧
          checkVisiting others index = .error fault := by
  have haccepted : checkVisiting visits index = .ok () ↔ Sound index := by
    rw [checkVisiting_eq_ok_iff, ← check_eq_ok_iff, check_eq_checkVisiting, checkVisiting_eq_ok_iff,
      firstFault_eq_none_iff, firstFault_eq_none_iff]
    simp only [h.mem_iff]
  refine ⟨haccepted.trans ⟨fun hs => ⟨hs.numbered, fun term ids hterm => ?_⟩, fun hs => ?_⟩,
    haccepted.trans (check_eq_ok_iff index).symm, fun fault hfault => ?_,
    fun term ids fault => exists_visits_reporting⟩
  · exact ⟨hs.inRange term ids hterm, (pairwise_lt_iff_places ids).mp (hs.ascending term ids hterm)⟩
  · obtain ⟨hnumbered, hpostings⟩ := hs
    exact ⟨hnumbered, fun term ids hterm => (hpostings term ids hterm).1,
      fun term ids hterm => (pairwise_lt_iff_places ids).mpr (hpostings term ids hterm).2⟩
  · rw [checkVisiting_eq_error_iff] at hfault
    exact present_of_firstFault (fun entry => (getElem?_of_mem_visits h entry.1 entry.2).mp) hfault

def twoFaults : Index where
  postings := .ofList [("a", [2]), ("b", [1, 0])]
  documents := #[.ofTokens 0 "" "x" [], .ofTokens 1 "" "y" []]

/-- The check reports the term that it visits first. -/
theorem check_twoFaults :
    [("b", [1, 0]), ("a", [2])].Perm twoFaults.postings.toList ∧
    checkVisiting [("b", [1, 0]), ("a", [2])] twoFaults = .error (.notAscending "b") ∧
    Present twoFaults (.notAscending "b") ∧
    twoFaults.check = .error (.unknownDocument "a" 2) ∧ twoFaults.check ≠ .ok () := by
  have hperm : [("b", [1, 0]), ("a", [2])].Perm twoFaults.postings.toList := by decide
  have hfault : checkVisiting [("b", [1, 0]), ("a", [2])] twoFaults = .error (.notAscending "b") := rfl
  obtain ⟨-, haccepted, hpresent, -⟩ := check_in_any_order hperm
  refine ⟨hperm, hfault, hpresent _ hfault, rfl, fun hok => ?_⟩
  rw [← haccepted, hfault] at hok
  cases hok

end Concordance.Proofs.Index.AnyOrder
