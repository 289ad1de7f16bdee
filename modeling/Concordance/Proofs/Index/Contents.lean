import Concordance.Proofs.Index.Checking
import Concordance.Proofs.Page.Normalizing

/-!
# What a built index holds

Each call that adds a document is answered with the number of documents before it, which becomes the
document's id and its place. The terms of the index are the tokens of all documents together, and the
postings of a term are the ids of the documents that were given it. If all tokens are words, they can be
read off the documents' texts again, so that postings and texts tell the same.
-/
namespace Concordance.Proofs.Index.Contents

open Concordance.Index Building Checking Retrieval Text.Words

/-- Adds one document after the other. Each call is answered with the id of its document. -/
def addEntries (builder : Builder) : List Entry → List DocumentId × Builder
  | [] => ([], builder)
  | entry :: entries =>
    let (id, next) := builder.add entry.title entry.url entry.tokens
    let (ids, last) := addEntries next entries
    (id :: ids, last)

/-! ## The calls -/

theorem answers_addEntries (builder : Builder) (entries : List Entry) :
    (addEntries builder entries).1 = List.range' builder.size entries.length := by
  induction entries generalizing builder with
  | nil => rfl
  | cons entry entries ih =>
    rw [addEntries, List.length_cons, List.range'_succ]
    exact congrArg _ (ih _)

theorem builder_addEntries (builder : Builder) (entries : List Entry) :
    (addEntries builder entries).2 =
      entries.foldl (fun b e => (b.add e.title e.url e.tokens).2) builder := by
  induction entries generalizing builder with
  | nil => rfl
  | cons entry entries ih =>
    rw [addEntries, List.foldl_cons]
    exact ih _

theorem build_addEntries (entries : List Entry) :
    (addEntries .empty entries).2.build = Index.ofEntries entries := by
  rw [builder_addEntries]
  rfl

/-! ## Documents and their words -/

theorem document?_ofEntries (entries : List Entry) (id : DocumentId) :
    (Index.ofEntries entries).document? id =
      entries[id]?.map fun entry => Document.ofTokens id entry.title entry.url entry.tokens := by
  rw [document?, ← Array.getElem?_toList, documents_ofEntries, getElem?_documentsOf]

/-- The words of a document's text are the tokens it was made from, if these are words. -/
theorem terms_ofTokens {tokens : List String} (h : ∀ token ∈ tokens, Solid token) (id : DocumentId)
    (title url : String) : (Document.ofTokens id title url tokens).terms = tokens :=
  words_intercalate h

theorem containsTerm_ofTokens {tokens : List String} (h : ∀ token ∈ tokens, Solid token)
    (id : DocumentId) (title url term : String) :
    (Document.ofTokens id title url tokens).containsTerm term = true ↔ term ∈ tokens := by
  rw [Document.containsTerm, terms_ofTokens h, List.contains_iff_mem]

/-! ## Postings -/

theorem mem_postings_ofEntries (entries : List Entry) (term : String) :
    term ∈ (Index.ofEntries entries).postings ↔ ∃ entry ∈ entries, term ∈ entry.tokens := by
  rw [Std.ExtTreeMap.mem_iff_isSome_getElem?, postings_ofEntries]
  have hnone : holders entries term = [] ↔ ∀ entry ∈ entries, term ∉ entry.tokens := by
    rw [holders, List.findIdxs_eq_nil_iff]
    simp only [decide_eq_false_iff_not]
  by_cases he : holders entries term = []
  · simpa [he] using hnone.mp he
  · simpa [he] using mt hnone.mpr he

theorem getD_postings_ofEntries (entries : List Entry) (term : String) :
    (Index.ofEntries entries).postings.getD term [] = holders entries term := by
  rw [Std.ExtTreeMap.getD_eq_getD_getElem?, postings_ofEntries]
  by_cases he : holders entries term = []
  · simp [he]
  · simp [he]

/-- The ids of the documents whose text has a word, in the order of the documents. -/
def containing (index : Index) (term : String) : Postings :=
  (index.documents.toList.filter fun d => d.containsTerm term).map Document.id

theorem map_id_documentsOf (entries : List Entry) :
    (documentsOf entries).map Document.id = List.range entries.length := by
  apply List.ext_getElem?
  intro i
  rw [List.getElem?_map, getElem?_documentsOf, Option.map_map]
  by_cases hi : i < entries.length
  · simp [hi, Document.ofTokens]
  · simp [Nat.not_lt.mp hi]

theorem mem_containing {entries : List Entry}
    (h : ∀ entry ∈ entries, ∀ token ∈ entry.tokens, Solid token) (term : String) (id : DocumentId) :
    id ∈ containing (Index.ofEntries entries) term ↔
      ∃ hid : id < entries.length, term ∈ entries[id].tokens := by
  rw [containing, documents_ofEntries, List.mem_map]
  constructor
  · rintro ⟨d, hd, rfl⟩
    obtain ⟨hd, hterm⟩ := List.mem_filter.mp hd
    obtain ⟨i, hi⟩ := List.mem_iff_getElem?.mp hd
    rw [getElem?_documentsOf] at hi
    obtain ⟨entry, he, rfl⟩ := Option.map_eq_some_iff.mp hi
    obtain ⟨hlt, rfl⟩ := List.getElem?_eq_some_iff.mp he
    exact ⟨hlt, (containsTerm_ofTokens (h _ (List.getElem_mem hlt)) i _ _ term).mp hterm⟩
  · rintro ⟨hid, hterm⟩
    have hget : (documentsOf entries)[id]? = some (Document.ofTokens id entries[id].title
        entries[id].url entries[id].tokens) := by
      rw [getElem?_documentsOf, List.getElem?_eq_getElem hid, Option.map_some]
    refine ⟨_, List.mem_filter.mpr ⟨List.mem_iff_getElem?.mpr ⟨id, hget⟩, ?_⟩, rfl⟩
    exact (containsTerm_ofTokens (h _ (List.getElem_mem hid)) id _ _ term).mpr hterm

theorem holders_eq_containing {entries : List Entry}
    (h : ∀ entry ∈ entries, ∀ token ∈ entry.tokens, Solid token) (term : String) :
    holders entries term = containing (Index.ofEntries entries) term := by
  have hholders : (holders entries term).Pairwise (· < ·) := List.pairwise_findIdxs
  have hcontaining : (containing (Index.ofEntries entries) term).Pairwise (· < ·) := by
    have hsub := (List.filter_sublist (p := fun d => d.containsTerm term)
      (l := documentsOf entries)).map Document.id
    rw [map_id_documentsOf] at hsub
    rw [containing, documents_ofEntries]
    exact List.pairwise_lt_range.sublist hsub
  apply hholders.eq_of_mem_iff hcontaining
  intro id
  rw [mem_containing h]
  by_cases hid : id < entries.length
  · rw [mem_holders hid]
    exact ⟨fun ht => ⟨hid, ht⟩, fun ⟨_, ht⟩ => ht⟩
  · refine iff_of_false (fun hmem => hid ?_) fun ⟨hlt, _⟩ => hid hlt
    exact (within_findIdxs entries _).inRange id hmem

/-- After any sequence of calls: the answers are the ids from 0 on; every document is the one made of
its call; the terms are the tokens of all calls; the postings of a term are the ids, ascending, of the
calls that were given it, and they are not empty; and the index passes the check. If moreover all tokens
are words, as those of normalized texts are, the postings of a term are the ids of the documents whose
text has it. -/
theorem contents_of_calls (entries : List Entry) :
    let answers := (addEntries .empty entries).1
    let index := (addEntries .empty entries).2.build
    answers = List.range entries.length ∧
    (∀ id : DocumentId, index.document? id = entries[id]?.map fun entry =>
      Document.ofTokens id entry.title entry.url entry.tokens) ∧
    (∀ term : String, term ∈ index.postings ↔ ∃ entry ∈ entries, term ∈ entry.tokens) ∧
    (∀ (term : String) (ids : Postings), index.postings[term]? = some ids →
      ids ≠ [] ∧ ids.Pairwise (· < ·) ∧
        ∀ id : DocumentId, id ∈ ids ↔ ∃ hid : id < entries.length, term ∈ entries[id].tokens) ∧
    index.check = .ok () ∧
    ((∀ entry ∈ entries, ∀ token ∈ entry.tokens, Solid token) →
      ∀ term : String, index.postings.getD term [] = containing index term) ∧
    ∀ text : String, ∀ token ∈ Page.normalize text, Solid token := by
  intro answers index
  have hindex : index = Index.ofEntries entries := build_addEntries entries
  rw [hindex]
  refine ⟨?_, document?_ofEntries entries, mem_postings_ofEntries entries, fun term ids hterm => ?_,
    (check_eq_ok_iff _).mpr (sound_ofEntries entries), fun h term => ?_, ?_⟩
  · rw [List.range_eq_range']
    exact answers_addEntries .empty entries
  · rw [postings_ofEntries] at hterm
    split_ifs at hterm with hne
    obtain rfl := Option.some.inj hterm
    have hwithin := within_findIdxs entries (fun entry => decide (term ∈ entry.tokens))
    refine ⟨hne, hwithin.ascending, fun id => ⟨fun hmem => ?_, fun ⟨hid, ht⟩ => ?_⟩⟩
    · have hid := hwithin.inRange id hmem
      exact ⟨hid, (mem_holders hid term).mp hmem⟩
    · exact (mem_holders hid term).mpr ht
  · rw [getD_postings_ofEntries, holders_eq_containing h]
  · exact fun text token htoken => Page.Normalizing.solid_of_mem_normalize htoken

def threeCalls : List Entry :=
  [⟨"", "x", ["b", "a", "b"]⟩, ⟨"", "y", []⟩, ⟨"", "z", ["b"]⟩]

theorem contents_of_threeCalls :
    let index := (addEntries .empty threeCalls).2.build
    (∀ entry ∈ threeCalls, ∀ token ∈ entry.tokens, Solid token) ∧
      index.postings["b"]? = some [0, 2] ∧ [0, 2].Pairwise (· < ·) ∧
      index.postings.getD "b" [] = containing index "b" := by
  intro index
  have hsolid : ∀ entry ∈ threeCalls, ∀ token ∈ entry.tokens, Solid token := by decide
  have hb : index.postings["b"]? = some [0, 2] := by rfl
  obtain ⟨-, -, -, hpostings, -, htexts, -⟩ := contents_of_calls threeCalls
  exact ⟨hsolid, hb, (hpostings "b" [0, 2] hb).2.1, htexts hsolid "b"⟩

end Concordance.Proofs.Index.Contents
