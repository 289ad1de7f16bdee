import Concordance.Proofs.Index.Building
import Concordance.Proofs.Index.Merging
import Concordance.Query.Evaluate

/-!
# Boolean retrieval is a scan of the documents

On an index whose postings ascend and stay in range, each operator's result may be the next
operator's input, so an expression evaluates to the ids it is true of, ascending, however its
operators are nested. The postings of a built index are the places that hold a term. Evaluating on it
therefore finds what looking at every document in turn finds, in the same order.
-/
namespace Concordance.Proofs.Index.Retrieval

open Concordance.Query Merging Building

/-! ## Evaluation on orderly postings -/

section
variable {index : Index} (h : ∀ word, Within index.size (index.postingsFor word))
include h

theorem within_evaluate (e : Expr) : Within index.size (e.evaluate index) := by
  induction e with
  | word w => exact h w
  | not e ih => exact within_complement (e.evaluate index) index.size
  | and l r ihl ihr => exact within_intersect ihl
  | or l r ihl ihr => exact within_union ihl ihr

/-- The ids in the result are those of documents at which the expression is true, a word being true
at the ids of its postings. -/
theorem mem_evaluate (e : Expr) (id : DocumentId) :
    id ∈ e.evaluate index ↔
      id < index.size ∧ e.holds (fun word => id ∈ index.postingsFor word) := by
  induction e with
  | word w =>
    rw [Expr.evaluate, Expr.holds]
    exact ⟨fun hid => ⟨(h w).inRange id hid, hid⟩, And.right⟩
  | not e ih =>
    rw [Expr.evaluate, mem_complement (within_evaluate h e).ascending, ih, Expr.holds]
    exact and_congr_right fun hlt => not_congr (and_iff_right hlt)
  | and l r ihl ihr =>
    rw [Expr.evaluate, mem_intersect (within_evaluate h l).ascending (within_evaluate h r).ascending,
      ihl, ihr, Expr.holds]
    exact and_and_left.symm
  | or l r ihl ihr =>
    rw [Expr.evaluate, mem_union, ihl, ihr, Expr.holds]
    exact and_or_left.symm

end

/-! ## The scan -/

instance decidableHolds (truth : String → Prop) [DecidablePred truth] :
    (e : Expr) → Decidable (e.holds truth)
  | .word w => inferInstanceAs (Decidable (truth w))
  | .not e =>
    have := decidableHolds truth e
    inferInstanceAs (Decidable (¬ e.holds truth))
  | .and l r =>
    have := decidableHolds truth l
    have := decidableHolds truth r
    inferInstanceAs (Decidable (l.holds truth ∧ r.holds truth))
  | .or l r =>
    have := decidableHolds truth l
    have := decidableHolds truth r
    inferInstanceAs (Decidable (l.holds truth ∨ r.holds truth))

/-- Whether an expression is true of a document with these tokens. A word is true of it if its
lowercase is one of them. -/
def TrueOf (tokens : List String) (e : Expr) : Prop :=
  e.holds (fun word => Text.lowercase word ∈ tokens)

instance (tokens : List String) (e : Expr) : Decidable (TrueOf tokens e) :=
  inferInstanceAs (Decidable (e.holds (fun word => Text.lowercase word ∈ tokens)))

/-- Looks at every document in turn and keeps the places, ascending, of those an expression is true
of. -/
def scan (entries : List Entry) (e : Expr) : Postings :=
  entries.findIdxs (fun entry => decide (TrueOf entry.tokens e))

theorem within_findIdxs (entries : List Entry) (p : Entry → Bool) :
    Within entries.length (entries.findIdxs p) where
  ascending := List.pairwise_findIdxs
  inRange id hid := by simpa using List.lt_add_of_mem_findIdxs id hid

theorem within_postingsFor_ofEntries (entries : List Entry) (word : String) :
    Within (Index.ofEntries entries).size ((Index.ofEntries entries).postingsFor word) := by
  rw [size_ofEntries, postingsFor_ofEntries]
  exact within_findIdxs entries _

theorem mem_evaluate_ofEntries (entries : List Entry) (e : Expr) (id : DocumentId) :
    id ∈ e.evaluate (Index.ofEntries entries) ↔
      ∃ hid : id < entries.length, TrueOf entries[id].tokens e := by
  rw [mem_evaluate (within_postingsFor_ofEntries entries), size_ofEntries]
  constructor
  · rintro ⟨hid, ht⟩
    refine ⟨hid, ?_⟩
    simpa only [TrueOf, postingsFor_ofEntries, mem_holders hid] using ht
  · rintro ⟨hid, ht⟩
    refine ⟨hid, ?_⟩
    simpa only [TrueOf, postingsFor_ofEntries, mem_holders hid] using ht

/-- Boolean retrieval over the built index is exactly the scan: the same ids, in ascending order, each
once. -/
theorem evaluate_ofEntries (entries : List Entry) (e : Expr) :
    e.evaluate (Index.ofEntries entries) = scan entries e := by
  have hw := within_evaluate (within_postingsFor_ofEntries entries) e
  apply hw.ascending.eq_of_mem_iff (within_findIdxs entries _).ascending
  intro id
  rw [mem_evaluate_ofEntries, List.mem_findIdxs_iff_exists_getElem_pos]
  simp only [decide_eq_true_eq]

/-- Tokens are looked up in lowercase, and a document without tokens is found by negation only. -/
example : scan [⟨"", "", ["a", "b", "a"]⟩, ⟨"", "", []⟩, ⟨"", "", ["b"]⟩]
    (.or (.and (.word "B") (.word "a")) (.not (.word "b"))) = [0, 1] := by decide

end Concordance.Proofs.Index.Retrieval
