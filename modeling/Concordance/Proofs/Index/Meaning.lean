import Concordance.Proofs.Index.Checking
import Concordance.Proofs.Index.Retrieval
import Concordance.Proofs.Snapshot.Framing

/-!
# Expressions on a sound index

On a sound index an expression finds the documents it is true of, a word being true of the documents
in its postings. What it finds therefore depends on its meaning only: expressions that agree whatever
their words mean find the same documents, and the laws of Boolean algebra may be used on queries.
-/
namespace Concordance.Proofs.Index.Meaning

open Concordance.Query Checking Merging Retrieval

/-! ## Equivalence -/

def Equivalent (e e' : Expr) : Prop :=
  ∀ truth : String → Prop, e.holds truth ↔ e'.holds truth

/-- The laws of Boolean algebra, each read from left to right. -/
inductive Law : Expr → Expr → Prop
  | doubleNegation (a : Expr) : Law (.not (.not a)) a
  | notAnd (a b : Expr) : Law (.not (.and a b)) (.or (.not a) (.not b))
  | notOr (a b : Expr) : Law (.not (.or a b)) (.and (.not a) (.not b))
  | andComm (a b : Expr) : Law (.and a b) (.and b a)
  | orComm (a b : Expr) : Law (.or a b) (.or b a)
  | andAssoc (a b c : Expr) : Law (.and (.and a b) c) (.and a (.and b c))
  | orAssoc (a b c : Expr) : Law (.or (.or a b) c) (.or a (.or b c))
  | andOr (a b c : Expr) : Law (.and a (.or b c)) (.or (.and a b) (.and a c))
  | orAnd (a b c : Expr) : Law (.or a (.and b c)) (.and (.or a b) (.or a c))
  | andAbsorbs (a b : Expr) : Law (.and a (.or a b)) a
  | orAbsorbs (a b : Expr) : Law (.or a (.and a b)) a

theorem Law.equivalent {e e' : Expr} (h : Law e e') : Equivalent e e' := by
  intro truth
  cases h with
  | doubleNegation a => exact Classical.not_not
  | notAnd a b => exact Classical.not_and_iff_not_or_not
  | notOr a b => exact not_or
  | andComm a b => exact and_comm
  | orComm a b => exact or_comm
  | andAssoc a b c => exact and_assoc
  | orAssoc a b c => exact or_assoc
  | andOr a b c => exact and_or_left
  | orAnd a b c => exact or_and_left
  | andAbsorbs a b => exact and_iff_left_of_imp Or.inl
  | orAbsorbs a b => exact or_iff_left_of_imp And.left

/-! ## Sound indexes -/

/-- An ascending list is fixed by its members, so expressions that are true of the same ids have one
result. -/
theorem evaluate_eq_of_holds_iff {index : Index} (h : Index.Sound index) {e e' : Expr}
    (hids : ∀ id < index.size, e.holds (fun word => id ∈ index.postingsFor word) ↔
      e'.holds (fun word => id ∈ index.postingsFor word)) : e.evaluate index = e'.evaluate index := by
  have hw := within_postingsFor h
  apply (within_evaluate hw e).ascending.eq_of_mem_iff (within_evaluate hw e').ascending
  intro id
  rw [mem_evaluate hw, mem_evaluate hw]
  exact and_congr_right fun hid => hids id hid

theorem evaluate_eq_of_equivalent {index : Index} (h : Index.Sound index) {e e' : Expr}
    (he : Equivalent e e') : e.evaluate index = e'.evaluate index :=
  evaluate_eq_of_holds_iff h fun _ _ => he _

theorem sound_of_decode {bytes : Bytes} {index : Index} (h : Snapshot.decode bytes = .ok index) :
    Index.Sound index := by
  obtain ⟨payload, -, -, -, hc⟩ := (Snapshot.Framing.decode_eq_ok_iff bytes index).mp h
  exact (check_eq_ok_iff index).mp hc

/-- On an index that passed the check, or that a snapshot was read as, the result of an expression is
the ascending list of the ids of those documents at which it is true; so equivalent expressions have
the same result, and both sides of every law. -/
theorem evaluate_accepted {index : Index}
    (h : index.check = .ok () ∨ ∃ bytes : Bytes, Snapshot.decode bytes = .ok index) :
    (∀ e : Expr, (e.evaluate index).Pairwise (· < ·) ∧
      ∀ id : DocumentId, id ∈ e.evaluate index ↔
        id < index.documents.size ∧ e.holds (fun word => id ∈ index.postingsFor word)) ∧
    (∀ e e' : Expr, Equivalent e e' → e.evaluate index = e'.evaluate index) ∧
    (∀ e e' : Expr, Law e e' → e.evaluate index = e'.evaluate index) := by
  have hs : Index.Sound index := by
    rcases h with hc | ⟨bytes, hd⟩
    · exact (check_eq_ok_iff index).mp hc
    · exact sound_of_decode hd
  have hw := within_postingsFor hs
  exact ⟨fun e => ⟨(within_evaluate hw e).ascending, mem_evaluate hw e⟩,
    fun e e' he => evaluate_eq_of_equivalent hs he,
    fun e e' hl => evaluate_eq_of_equivalent hs hl.equivalent⟩

def threeDocuments : Index :=
  .ofEntries [⟨"", "", ["a", "b", "a"]⟩, ⟨"", "", []⟩, ⟨"", "", ["b"]⟩]

/-- What is not in both postings of `A` and `b` is what is missing in one of them: the last two
documents, the second of which holds no word at all. -/
theorem evaluate_threeDocuments :
    threeDocuments.check = .ok () ∧
    (Expr.not (.and (.word "A") (.word "b"))).evaluate threeDocuments =
      (Expr.or (.not (.word "A")) (.not (.word "b"))).evaluate threeDocuments ∧
    1 ∈ (Expr.not (.and (.word "A") (.word "b"))).evaluate threeDocuments := by
  have hc : threeDocuments.check = .ok () := rfl
  obtain ⟨hmem, hequivalent, hlaw⟩ := evaluate_accepted (Or.inl hc)
  refine ⟨hc, hlaw _ _ (.notAnd _ _), ((hmem _).2 1).mpr ⟨by decide, ?_⟩⟩
  rintro ⟨ha, -⟩
  exact absurd ha (by decide)

end Concordance.Proofs.Index.Meaning
