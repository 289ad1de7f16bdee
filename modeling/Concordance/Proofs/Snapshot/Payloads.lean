import Concordance.Proofs.Json.Containers
import Concordance.Proofs.Json.Reals
import Concordance.Snapshot.Codec

/-!
# Payloads come back as indexes

The members of a document and of an index are read by the fields of their names, and the table of
postings is the same whatever the order in which its terms are written.
-/
namespace Concordance.Proofs.Snapshot.Payloads

open Concordance.Json Reader
open Concordance.Proofs.Json Running Texts Numbers Reals Containers

/-! ## Documents -/

/-- Identifiers and norms that have a place in a payload: words of 64 bits and finite numbers. -/
structure Storable (d : Document) : Prop where
  id_lt : d.id < 0x10000000000000000
  norm_finite : d.norm.isFinite = true

/-- What is done with a value once it has been read does not change what is read. -/
theorem restores_map_value {α β : Type} {reader : Reader α} {value : Value} {a : α}
    (h : Restores reader value a) (f : α → β) :
    Restores (do pure (f (← reader))) value (f a) := by
  intro rest hrest
  exact bind_of_ok (h rest hrest) _

theorem restores_document {d : Document} (h : Storable d) :
    Restores Document.jsonRecord.reader d.toJson d := by
  refine restores_record (?_ : Fills _ _ _
    (⟨some d.id, some d.title, some d.url, some d.text, some d.norm⟩ : Document.Partial)) rfl
  refine .cons rfl rfl (restores_map_value (restores_natural h.id_lt) _) ?_
  refine .cons rfl rfl (restores_map_value (restores_text d.title) _) ?_
  refine .cons rfl rfl (restores_map_value (restores_text d.url) _) ?_
  refine .cons rfl rfl (restores_map_value (restores_text d.text) _) ?_
  exact .cons rfl rfl (restores_map_value (restores_real h.norm_finite) _) (.nil _)

/-! ## Tables of postings -/

theorem foldl_insert_eq (entries : List (String × Postings)) (table : Std.ExtTreeMap String Postings) :
    entries.foldl (fun table entry => table.insert entry.1 entry.2) table = table.insertMany entries := by
  induction entries generalizing table with
  | nil => rw [List.foldl_nil, Std.ExtTreeMap.insertMany_nil]
  | cons entry entries ih =>
    obtain ⟨term, ids⟩ := entry
    rw [List.foldl_cons, ih, Std.ExtTreeMap.insertMany_cons]

/-- A table can be read from its entries in any order, because no term has two of them. -/
theorem postingsOf_perm {table : Std.ExtTreeMap String Postings} {entries : List (String × Postings)}
    (h : entries.Perm table.toList) : Index.postingsOf entries = table := by
  have hdistinct : entries.Pairwise (fun a b => ¬ compare a.1 b.1 = .eq) :=
    (h.pairwise_iff fun hab hba => hab (Std.OrientedCmp.eq_comm.mp hba)).mpr
      Std.ExtTreeMap.distinct_keys_toList
  rw [Index.postingsOf, foldl_insert_eq]
  refine Std.ExtTreeMap.ext_getElem? fun term => ?_
  cases hterm : table[term]? with
  | some ids =>
    have hmem : (term, ids) ∈ entries :=
      h.mem_iff.mpr (Std.ExtTreeMap.mem_toList_iff_getElem?_eq_some.mpr hterm)
    exact Std.ExtTreeMap.getElem?_insertMany_list_of_mem Std.ReflCmp.compare_self hdistinct hmem
  | none =>
    have hnone : (entries.map Prod.fst).contains term = false := by
      rw [← Bool.not_eq_true, List.contains_iff_mem, List.mem_map]
      rintro ⟨⟨t, ids⟩, hmem, rfl⟩
      have hsome := Std.ExtTreeMap.mem_toList_iff_getElem?_eq_some.mp (h.mem_iff.mp hmem)
      rw [hterm] at hsome
      cases hsome
    rw [Std.ExtTreeMap.getElem?_insertMany_list_of_contains_eq_false hnone]
    exact Std.ExtTreeMap.getElem?_empty

/-! ## Indexes -/

/-- The members of an index, with its terms in some order. -/
def indexJson (entries : List (String × Postings)) (documents : List Document) : Value :=
  .object [
    ("postings", .object (entries.map (written fun ids => .list (ids.map .natural)))),
    ("documents", .list (documents.map Document.toJson))]

theorem opens_natural (n : ℕ) : Opens (.natural n) := by
  have hfigures := figures_toDigits n
  obtain ⟨c, more, hc⟩ := List.exists_cons_of_ne_nil hfigures.ne_nil
  have hdigit := isDigit_byte (hfigures.isDigit c (hc ▸ List.mem_cons_self))
  refine ⟨byte c, more.map byte, ?_, isBlank_of_isDigit hdigit, ?_⟩
  · rw [Value.compact, utf8Of_digits hfigures.isDigit, hc, List.map_cons]
  · intro he
    rw [he] at hdigit
    exact absurd hdigit (by decide)

theorem opens_object (members : List (String × Value)) : Opens (.object members) :=
  ⟨byte '\x7b', _, List.append_nil (Text.utf8Of (Value.object members).compact) ▸ object_bytes members [],
    rfl, by decide⟩

theorem restores_index {entries : List (String × Postings)}
    (hids : ∀ e ∈ entries, ∀ id ∈ e.2, id < 0x10000000000000000)
    {documents : List Document} (hdocuments : ∀ d ∈ documents, Storable d) :
    Restores Index.jsonRecord.reader (indexJson entries documents)
      ⟨Index.postingsOf entries, documents.toArray⟩ := by
  refine restores_record (?_ : Fills _ _ _
    (⟨some (Index.postingsOf entries), some documents.toArray⟩ : Index.Partial)) rfl
  refine .cons rfl rfl (restores_map_value (restores_map fun e he =>
    restores_list (fun id _ => opens_natural id) fun id hid => restores_natural (hids e he id hid)) _) ?_
  exact .cons rfl rfl (restores_map_value (restores_list (fun d _ => opens_object _)
    fun d hd => restores_document (hdocuments d hd)) _) (.nil _)

theorem whole_of_restores {α : Type} {reader : Reader α} {value : Value} {a : α}
    (h : Restores reader value a) : whole reader (Text.utf8Of value.compact) = .ok a := by
  have hrun := h [] (by simp [Delimited])
  rw [List.append_nil] at hrun
  rw [whole, hrun]
  rfl

/-- A payload is read as the index it was written from, in whatever order its terms stand. -/
theorem ofJson_indexJson {index : Index} {entries : List (String × Postings)}
    (horder : entries.Perm index.postings.toList)
    (hids : ∀ e ∈ entries, ∀ id ∈ e.2, id < 0x10000000000000000)
    (hdocuments : ∀ d ∈ index.documents, Storable d) :
    Index.ofJson (Text.utf8Of (indexJson entries index.documents.toList).compact) = .ok index := by
  have hrestores := restores_index hids fun d hd => hdocuments d (Array.mem_toList_iff.mp hd)
  rw [postingsOf_perm horder] at hrestores
  exact whole_of_restores hrestores

end Concordance.Proofs.Snapshot.Payloads
