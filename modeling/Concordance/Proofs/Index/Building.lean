import Mathlib.Data.List.Sort
import Concordance.Index.Builder

/-!
# What a builder holds after any number of documents

`Represents` relates the entries added so far to the three fields of a builder, and every further
entry preserves it. It fixes the postings of every term completely, so a term has an entry in the map
exactly when some document holds it.
-/
namespace Concordance.Proofs.Index.Building

open Concordance.Index

/-- The places, ascending, of the entries that hold a term among their tokens. -/
def holders (entries : List Entry) (term : String) : Postings :=
  entries.findIdxs (fun entry => decide (term ∈ entry.tokens))

def documentsOf (entries : List Entry) : List Document :=
  entries.mapIdx (fun i entry => Document.ofTokens i entry.title entry.url entry.tokens)

theorem holders_append (entries : List Entry) (entry : Entry) (term : String) :
    holders (entries ++ [entry]) term =
      holders entries term ++ if term ∈ entry.tokens then [entries.length] else [] := by
  rw [holders, List.findIdxs_append, List.findIdxs_singleton, Nat.zero_add]
  simp only [decide_eq_true_eq, holders]

theorem mem_holders {entries : List Entry} {id : DocumentId} (hid : id < entries.length)
    (term : String) : id ∈ holders entries term ↔ term ∈ entries[id].tokens := by
  rw [holders, List.mem_findIdxs_iff_pos_getElem hid, decide_eq_true_eq]

/-- A builder that was given these entries, and nothing else, in this order. -/
structure Represents (entries : List Entry) (builder : Builder) : Prop where
  size_eq : builder.size = entries.length
  documents_eq : builder.documents.reverse = documentsOf entries
  postings_eq : ∀ term : String, builder.postings[term]? =
    if holders entries term = [] then none else some (holders entries term).reverse

theorem represents_empty : Represents [] Builder.empty where
  size_eq := rfl
  documents_eq := rfl
  postings_eq term := by simp [Builder.empty, holders]

/-! ## The distinct tokens of an entry -/

private theorem mem_foldl_add (words : List String) (counts : Tally Nat) (term : String) :
    term ∈ words.foldl Tally.add counts ↔ term ∈ counts ∨ term ∈ words := by
  induction words generalizing counts with
  | nil => simp
  | cons word words ih =>
    rw [List.foldl_cons, ih, Tally.add, Std.ExtTreeMap.mem_insert, List.mem_cons]
    simp only [Std.LawfulEqCmp.compare_eq_iff_eq]
    tauto

/-- A tally has an entry for each word of its list, and for no other. -/
theorem mem_tally (words : List String) (term : String) :
    term ∈ (Tally.ofList words : Tally Nat) ↔ term ∈ words := by
  rw [Tally.ofList, mem_foldl_add]
  simp

/-- Posting distinct terms puts the id in front of the postings of each of them once. -/
theorem getElem?_foldl_post (id : DocumentId) (terms : List String) (hn : terms.Nodup)
    (postings : Std.ExtTreeMap String Postings) (term : String) :
    (terms.foldl (Builder.post id) postings)[term]? =
      if term ∈ terms then some (id :: postings.getD term []) else postings[term]? := by
  induction terms generalizing postings with
  | nil => simp
  | cons t terms ih =>
    obtain ⟨ht, hn'⟩ := List.nodup_cons.mp hn
    rw [List.foldl_cons, ih hn']
    simp only [Builder.post, Std.ExtTreeMap.getD_insert, Std.ExtTreeMap.getElem?_insert,
      Std.LawfulEqCmp.compare_eq_iff_eq]
    by_cases he : t = term
    · subst he
      simp [ht]
    · simp [he, Ne.symm he]

/-! ## Adding entries -/

/-- One more entry gets the next id, which is posted once for each of its distinct tokens. -/
theorem represents_add {entries : List Entry} {builder : Builder}
    (h : Represents entries builder) (entry : Entry) :
    Represents (entries ++ [entry]) (builder.add entry.title entry.url entry.tokens).2 where
  size_eq := by rw [Builder.add, h.size_eq, List.length_append, List.length_singleton]
  documents_eq := by
    rw [Builder.add, List.reverse_cons, h.documents_eq, h.size_eq, documentsOf, documentsOf,
      List.mapIdx_append]
    simp
  postings_eq term := by
    have hkey : term ∈ (Tally.ofList entry.tokens : Tally Nat).keys ↔ term ∈ entry.tokens := by
      rw [Std.ExtTreeMap.mem_keys, mem_tally]
    rw [Builder.add, getElem?_foldl_post _ _ Std.ExtTreeMap.nodup_keys,
      Std.ExtTreeMap.getD_eq_getD_getElem?, h.postings_eq, h.size_eq, holders_append]
    simp only [hkey]
    by_cases ht : term ∈ entry.tokens
    · by_cases he : holders entries term = []
      · simp [ht, he]
      · simp [ht, he]
    · simp [ht]

theorem represents_foldl {before : List Entry} {builder : Builder}
    (h : Represents before builder) (entries : List Entry) :
    Represents (before ++ entries)
      (entries.foldl (fun b e => (b.add e.title e.url e.tokens).2) builder) := by
  induction entries generalizing before builder with
  | nil => simpa using h
  | cons entry entries ih =>
    rw [List.foldl_cons]
    simpa using ih (represents_add h entry)

/-! ## The finished index -/

theorem represents_entries (entries : List Entry) :
    Represents entries
      (entries.foldl (fun b e => (b.add e.title e.url e.tokens).2) Builder.empty) := by
  simpa using represents_foldl represents_empty entries

theorem documents_ofEntries (entries : List Entry) :
    (Index.ofEntries entries).documents.toList = documentsOf entries := by
  rw [Index.ofEntries, Builder.build, List.toList_toArray, (represents_entries entries).documents_eq]

theorem size_ofEntries (entries : List Entry) :
    (Index.ofEntries entries).size = entries.length := by
  rw [Index.size, ← Array.length_toList, documents_ofEntries, documentsOf, List.length_mapIdx]

/-- The postings of a term that occurs are the places that hold it, and they are never empty. -/
theorem postings_ofEntries (entries : List Entry) (term : String) :
    (Index.ofEntries entries).postings[term]? =
      if holders entries term = [] then none else some (holders entries term) := by
  rw [Index.ofEntries, Builder.build, Std.ExtTreeMap.getElem?_map,
    (represents_entries entries).postings_eq]
  by_cases he : holders entries term = []
  · simp [he]
  · simp [he]

/-- A word is looked up in lowercase; a word no document holds has no postings. -/
theorem postingsFor_ofEntries (entries : List Entry) (word : String) :
    (Index.ofEntries entries).postingsFor word = holders entries (Text.lowercase word) := by
  rw [Index.postingsFor, Std.ExtTreeMap.getD_eq_getD_getElem?, postings_ofEntries]
  by_cases he : holders entries (Text.lowercase word) = []
  · simp [he]
  · simp [he]

end Concordance.Proofs.Index.Building
