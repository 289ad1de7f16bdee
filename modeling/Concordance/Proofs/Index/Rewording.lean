import Concordance.Proofs.Index.Meaning
import Concordance.Proofs.Score.Counting
import Concordance.Proofs.Text.Lowercasing
import Concordance.Search

/-!
# Rewording a query

On a sound index the results of a search are fixed by the ids a query is true of and by its words, each
in lowercase and as often as it is repeated. The place of a word in the query counts for nothing, and
neither does the order in which the terms of a score are visited, even if it changes from document to
document. So operands may be swapped and regrouped, negations moved and words written in lowercase.
-/
namespace Concordance.Proofs.Index.Rewording

open Concordance.Query Checking Meaning Retrieval
open Score.Counting

/-! ## What a search depends on -/

def lowered (e : Expr) : List String :=
  e.terms.map Text.lowercase

/-- Two expressions that are true of the same ids of an index, a word being true of the ids in its
postings. -/
def SameIds (index : Index) (e e' : Expr) : Prop :=
  ∀ id < index.size, e.holds (fun word => id ∈ index.postingsFor word) ↔
    e'.holds (fun word => id ∈ index.postingsFor word)

def SameMeaning (e e' : Expr) : Prop :=
  ∀ truth : String → Prop, e.holds (fun word => truth (Text.lowercase word)) ↔
    e'.holds (fun word => truth (Text.lowercase word))

/-! ## The order of visits -/

/-- All matches, with an order for each document in which its score visits the terms of the query. -/
def matchedOver (orders : DocumentId → List (String × Nat)) (index : Index) (query : Expr) : List Match :=
  (query.evaluate index).filterMap fun id =>
    (index.document? id).map fun d => ⟨id, scoreOver (orders id) d⟩

def searchOver (orders : DocumentId → List (String × Nat)) (index : Index) (settings : Settings)
    (query : Expr) : List Hit :=
  (((matchedOver orders index query).mergeSort Match.before).take settings.maxResults).filterMap
    (index.present? settings)

theorem searchOver_eq {orders : DocumentId → List (String × Nat)} {e : Expr}
    (h : ∀ id : DocumentId, Visits (lowered e) (orders id)) (index : Index) (settings : Settings) :
    searchOver orders index settings e = index.search settings e := by
  have hmatched : matchedOver orders index e = index.matched e := by
    refine List.filterMap_congr fun id _ => Option.map_congr fun d _ => ?_
    rw [scoreOver_visits (h id)]
  rw [searchOver, hmatched, Index.search]

/-! ## Queries with one meaning -/

theorem search_eq {index : Index} (h : Index.Sound index) {e e' : Expr} (hids : SameIds index e e')
    (hterms : (lowered e).Perm (lowered e')) (settings : Settings) :
    index.search settings e = index.search settings e' := by
  have hmatched : index.matched e = index.matched e' := by
    rw [Index.matched, Index.matched, evaluate_eq_of_holds_iff h hids]
    refine List.filterMap_congr fun id _ => Option.map_congr fun d _ => ?_
    rw [score_congr hterms]
  rw [Index.search, hmatched, Index.search]

/-- A word is looked up in lowercase. -/
theorem SameMeaning.sameIds {e e' : Expr} (h : SameMeaning e e') (index : Index) :
    SameIds index e e' :=
  fun id _ => h fun term => id ∈ index.postings.getD term []

/-! ## Rewordings -/

/-- Other ways to write a query with the same words. -/
inductive Reworded : Expr → Expr → Prop
  | refl (a : Expr) : Reworded a a
  | symm {a b : Expr} : Reworded a b → Reworded b a
  | trans {a b c : Expr} : Reworded a b → Reworded b c → Reworded a c
  | not {a a' : Expr} : Reworded a a' → Reworded (.not a) (.not a')
  | and {a a' b b' : Expr} : Reworded a a' → Reworded b b' → Reworded (.and a b) (.and a' b')
  | or {a a' b b' : Expr} : Reworded a a' → Reworded b b' → Reworded (.or a b) (.or a' b')
  | andComm (a b : Expr) : Reworded (.and a b) (.and b a)
  | orComm (a b : Expr) : Reworded (.or a b) (.or b a)
  | andAssoc (a b c : Expr) : Reworded (.and (.and a b) c) (.and a (.and b c))
  | orAssoc (a b c : Expr) : Reworded (.or (.or a b) c) (.or a (.or b c))
  | notAnd (a b : Expr) : Reworded (.not (.and a b)) (.or (.not a) (.not b))
  | notOr (a b : Expr) : Reworded (.not (.or a b)) (.and (.not a) (.not b))
  | doubleNegation (a : Expr) : Reworded (.not (.not a)) a
  | lowercase (word : String) : Reworded (.word word) (.word (Text.lowercase word))

namespace Reworded

variable {e e' : Expr}

theorem sameMeaning (h : Reworded e e') : SameMeaning e e' := by
  intro truth
  induction h with
  | refl a => exact Iff.rfl
  | symm _ ih => exact ih.symm
  | trans _ _ ih ih' => exact ih.trans ih'
  | not _ ih => exact not_congr ih
  | and _ _ ih ih' => exact and_congr ih ih'
  | or _ _ ih ih' => exact or_congr ih ih'
  | andComm a b => exact (Law.andComm a b).equivalent _
  | orComm a b => exact (Law.orComm a b).equivalent _
  | andAssoc a b c => exact (Law.andAssoc a b c).equivalent _
  | orAssoc a b c => exact (Law.orAssoc a b c).equivalent _
  | notAnd a b => exact (Law.notAnd a b).equivalent _
  | notOr a b => exact (Law.notOr a b).equivalent _
  | doubleNegation a => exact (Law.doubleNegation a).equivalent _
  | lowercase word => rw [Expr.holds, Expr.holds, Text.Lowercasing.lowercase_lowercase]

theorem lowered_perm (h : Reworded e e') : (lowered e).Perm (lowered e') := by
  induction h with
  | refl a => exact .refl _
  | symm _ ih => exact ih.symm
  | trans _ _ ih ih' => exact ih.trans ih'
  | not _ ih => exact ih
  | and _ _ ih ih' =>
    simp only [lowered, Expr.terms, List.map_append] at ih ih' ⊢
    exact ih.append ih'
  | or _ _ ih ih' =>
    simp only [lowered, Expr.terms, List.map_append] at ih ih' ⊢
    exact ih.append ih'
  | andComm a b => exact List.perm_append_comm.map _
  | orComm a b => exact List.perm_append_comm.map _
  | andAssoc a b c => rw [lowered, lowered, Expr.terms, Expr.terms, List.append_assoc]; rfl
  | orAssoc a b c => rw [lowered, lowered, Expr.terms, Expr.terms, List.append_assoc]; rfl
  | notAnd a b => exact .refl _
  | notOr a b => exact .refl _
  | doubleNegation a => exact .refl _
  | lowercase word =>
    simp only [lowered, Expr.terms, List.map_singleton, Text.Lowercasing.lowercase_lowercase]
    exact .refl _

end Reworded

/-- On an index that passed the check and under any settings, the results of a search do not depend on
the order in which scores visit the terms; they are the same for two queries that are true of the same
ids and have the same lowercase words as often, as they are if the queries are equivalent over their
lowercase words; and they are the same for every rewording, whichever operands it swaps, regroups or
negates and whichever words it writes in another case. -/
theorem search_reworded {index : Index} (h : index.check = .ok ()) (settings : Settings) :
    (∀ (e : Expr) (orders : DocumentId → List (String × Nat)),
      (∀ id : DocumentId, Visits (lowered e) (orders id)) →
      searchOver orders index settings e = index.search settings e) ∧
    (∀ e e' : Expr, SameIds index e e' → (lowered e).Perm (lowered e') →
      index.search settings e = index.search settings e') ∧
    (∀ e e' : Expr, SameMeaning e e' → SameIds index e e') ∧
    (∀ e e' : Expr, Reworded e e' → index.search settings e = index.search settings e') ∧
    ∀ word word' : String, Text.lowercase word = Text.lowercase word' →
      Reworded (.word word) (.word word') := by
  have hs := (check_eq_ok_iff index).mp h
  refine ⟨fun e orders ho => searchOver_eq ho index settings,
    fun e e' hids hterms => search_eq hs hids hterms settings, fun e e' he => he.sameIds index,
    fun e e' hr => search_eq hs (hr.sameMeaning.sameIds index) hr.lowered_perm settings,
    fun word word' hw => ?_⟩
  have hlower := Reworded.lowercase word
  rw [hw] at hlower
  exact hlower.trans (Reworded.lowercase word').symm

def fourDocuments : Index :=
  .ofEntries [⟨"", "w", ["a", "b", "a"]⟩, ⟨"", "x", []⟩, ⟨"", "y", ["b", "c"]⟩, ⟨"", "z", ["a", "c"]⟩]

/-- Swapped operands, other letter case, and scores that visit the terms backwards. -/
theorem search_fourDocuments :
    let query := Expr.and (.word "A") (.or (.word "b") (.word "c"))
    let other := Expr.and (.or (.word "C") (.word "B")) (.word "a")
    let backwards := (Tally.ofList (lowered query)).toList.reverse
    fourDocuments.check = .ok () ∧ Reworded query other ∧ SameIds fourDocuments query other ∧
      (lowered query).Perm (lowered other) ∧ Visits (lowered query) backwards ∧
      query.evaluate fourDocuments = [0, 3] ∧
      searchOver (fun _ => backwards) fourDocuments ⟨3, 10⟩ query =
        fourDocuments.search ⟨3, 10⟩ other := by
  intro query other backwards
  have hc : fourDocuments.check = .ok () := rfl
  obtain ⟨horder, hsame, hmeaning, -, hcase⟩ := search_reworded hc ⟨3, 10⟩
  have hreworded : Reworded query other :=
    (Reworded.andComm _ _).trans (.and ((Reworded.orComm _ _).trans
      (.or (hcase "c" "C" (by decide)) (hcase "b" "B" (by decide)))) (hcase "A" "a" (by decide)))
  have hids := hmeaning query other hreworded.sameMeaning
  have hvisits : Visits (lowered query) backwards :=
    (visits_toList _).reordered (List.reverse_perm _).symm
  have hevaluate : query.evaluate fourDocuments = [0, 3] := by
    rw [fourDocuments, evaluate_ofEntries]
    decide
  refine ⟨hc, hreworded, hids, hreworded.lowered_perm, hvisits, hevaluate, ?_⟩
  rw [horder query (fun _ => backwards) fun _ => hvisits]
  exact hsame query other hids hreworded.lowered_perm

end Concordance.Proofs.Index.Rewording
