import Concordance.Proofs.Decimal.Signs
import Concordance.Proofs.Index.Norms
import Concordance.Proofs.Index.Ranking
import Concordance.Proofs.Score.Regrouping

/-!
# Ties in a ranking

Results are sorted by the total order of doubles, in which a negative zero stands apart from zero. So
results whose scores are equal as numbers are in the order of their ids, unless one of the scores is a
negative zero. A score is a negative zero exactly if the document's norm is negative and its product with
the root of the query's weight is too large for a double. No norm of a built index is negative, but the
check of an index that is read looks at no norm.
-/
namespace Concordance.Proofs.Index.Ties

open Concordance.Query Concordance.Score
open Decimal.Comparing Decimal.Quotients Decimal.Signs
open Index.Contents Norms Checking Ranking
open Score.Counting Score.Regrouping

/-! ## Negative zeros -/

/-- Some term occurs, and the divisor of the score is negative and too large for a double. -/
def Overflows (terms : List String) (d : Document) : Prop :=
  (sums terms d).weight ≠ 0 ∧ d.norm < 0.0 ∧
    (d.norm * (Float.ofNat (sums terms d).weight).sqrt).isInf = true

theorem hits_pos {terms : List String} {d : Document} (h : (sums terms d).weight ≠ 0) :
    0 < (sums terms d).hits := by
  have hweight : termWeight terms d ≠ 0 := by rwa [sums_eq] at h
  obtain ⟨term, ht, hd⟩ : ∃ term ∈ terms, Text.lowercase term ∈ d.terms := by
    by_contra hno
    push Not at hno
    exact hweight ((termWeight_eq_zero_iff terms d).mpr hno)
  exact (sums_pos ht hd).1

theorem score_eq_neg_zero_iff {terms : List String} {d : Document} (hnorm : d.norm.isNaN = false)
    (hterms : terms.length < 2 ^ 64) (hd : d.terms.length < 2 ^ 64) :
    (score terms d).isNaN = false ∧ (score terms d = -0.0 ↔ Overflows terms d) := by
  have hhits : (sums terms d).hits < 2 ^ 200 :=
    calc (sums terms d).hits ≤ terms.length * d.terms.length := hits_le fun _ => List.count_le_length
      _ < 2 ^ 64 * 2 ^ 64 := Nat.mul_lt_mul'' hterms hd
      _ ≤ 2 ^ 200 := by norm_num
  have hweight : (sums terms d).weight < 2 ^ 200 :=
    (weight_le terms d).trans_lt (sumSquares_lt (by rwa [List.length_map]))
  rw [score]
  -- the guard returns zero, which is not negative; past it the norm has a sign
  by_cases hguard : (decide ((sums terms d).weight = 0) || d.norm == 0.0) = true
  · simp only [hguard, if_true]
    refine ⟨rfl, iff_of_false (fun h => ?_) ?_⟩
    · exact absurd (congrArg (fun x : Float => x.toBits) h) (by decide)
    · rintro ⟨hne, hneg, -⟩
      rcases Bool.or_eq_true_iff.mp hguard with hzero | hzero
      · exact hne (of_decide_eq_true hzero)
      · exact not_lt_of_beq hzero hneg
  · simp only [hguard]
    obtain ⟨hne, hzero⟩ : (sums terms d).weight ≠ 0 ∧ (d.norm == 0.0) = false := by
      simpa using hguard
    obtain ⟨hnan, hiff⟩ := quotient_eq_neg_zero_iff (hits_pos hne) hhits (Nat.pos_of_ne_zero hne) hweight
      hnorm hzero
    exact ⟨hnan, hiff.trans ⟨fun h => ⟨hne, h⟩, fun h => h.2⟩⟩

/-- The norm of a list of words is not below zero. -/
theorem normOf_nonneg (words : List String) : ¬ Document.normOf words < 0.0 := by
  cases hzero : Document.normOf words == 0.0 with
  | true => exact not_lt_of_beq hzero
  | false =>
    have hne : words ≠ [] := by
      rintro rfl
      cases hzero
    have hpos : 0 < (Tally.ofList words).widen.sumSquares := by
      refine Nat.pos_of_ne_zero fun h => ?_
      rw [(normOf_eq_zero_iff words).mpr ((sumSquares_widen_eq_zero_iff words).mp h)] at hzero
      cases hzero
    rw [normOf_of_ne_nil hne]
    exact not_lt_zero_of_atLeast (atLeast_unpack_pack (by norm_num) (atLeast_sqrt (atLeast_ofNat hpos)))

theorem not_overflows_ofEntries {entries : List Entry} {d : Document}
    (h : d ∈ (Index.ofEntries entries).documents) (terms : List String) : ¬ Overflows terms d := by
  obtain ⟨id, hid⟩ := Array.mem_iff_getElem?.mp h
  obtain ⟨entry, -, rfl⟩ := Option.map_eq_some_iff.mp ((document?_ofEntries entries id).symm.trans hid)
  rintro ⟨-, hneg, -⟩
  exact normOf_nonneg entry.tokens hneg

/-! ## The order of results -/

/-- The first result has the higher score, or a score equal as a number and the lower id. -/
def Precedes (a b : Hit) : Prop :=
  b.score < a.score ∨ (a.score == b.score) = true ∧ a.id < b.id

/-- Every result has the score of its document. -/
theorem exists_document_of_mem_search {index : Index} {settings : Settings} {e : Expr} {hit : Hit}
    (h : hit ∈ index.search settings e) :
    ∃ d : Document, index.document? hit.id = some d ∧ hit.score = score e.terms d := by
  have hranking := isRanking_mergeSort index e
  obtain ⟨m, hm, hshows⟩ := exists_match_of_shows (shows_search hranking settings) hit h
  obtain ⟨d, hd, hscore⟩ := hranking.scored m (List.mem_of_mem_take hm)
  refine ⟨d, ?_, hshows.score_eq.trans hscore⟩
  rw [hshows.id_eq]
  exact hd

theorem matches_of_shows {index : Index} {settings : Settings} {ms : List Match} {hits : List Hit}
    (h : List.Forall₂ (Shows index settings) ms hits) :
    hits.map (fun hit => (⟨hit.id, hit.score⟩ : Match)) = ms := by
  induction h with
  | nil => rfl
  | cons hm _ ih => rw [List.map_cons, ih, hm.id_eq, hm.score_eq]

/-- No result is outranked by one that stands after it. -/
theorem ordered_search (index : Index) (settings : Settings) (e : Expr) :
    (index.search settings e).Pairwise fun a b => ¬ Outranks ⟨b.id, b.score⟩ ⟨a.id, a.score⟩ := by
  have hranking := isRanking_mergeSort index e
  have hordered := hranking.ordered.sublist (List.take_sublist settings.maxResults _)
  rw [← matches_of_shows (shows_search hranking settings)] at hordered
  exact List.pairwise_map.mp hordered

/-- No two results have the same id. -/
theorem distinct_search {index : Index} (h : index.check = .ok ()) (settings : Settings) (e : Expr) :
    (index.search settings e).Pairwise fun a b => a.id ≠ b.id := by
  have hranking := isRanking_mergeSort index e
  have hsound := (check_eq_ok_iff index).mp h
  have hw := Retrieval.within_evaluate (within_postingsFor hsound) e
  have hnodup : ((index.search settings e).map Hit.id).Nodup := by
    rw [map_id_of_shows (shows_search hranking settings), List.map_take]
    exact ((ids_of_sound hsound hranking).nodup_iff.mpr (hw.ascending.imp ne_of_lt)).sublist
      (List.take_sublist _ _)
  exact List.pairwise_map.mp hnodup

/-- The total order of doubles decides by score and then by id, but it puts zero before negative zero. -/
theorem precedes_of_not_outranks {a b : Hit} (ha : a.score.isNaN = false) (hb : b.score.isNaN = false)
    (h : ¬ Outranks ⟨b.id, b.score⟩ ⟨a.id, a.score⟩) (hid : a.id ≠ b.id) :
    Precedes a b ∨ a.score = 0.0 ∧ b.score = -0.0 := by
  simp only [Outranks, not_or, not_and, not_lt] at h
  obtain ⟨hle, hids⟩ := h
  rcases hle.lt_or_eq with hlt | heq
  · rcases lt_of_place_lt hb ha hlt with hscore | ⟨hb', ha'⟩
    · exact Or.inl (Or.inl hscore)
    · exact Or.inr ⟨ha', hb'⟩
  · have hscore := eq_of_place_eq ha hb heq.symm
    refine Or.inl (Or.inr ⟨?_, (hids heq).lt_of_ne hid⟩)
    rw [← hscore]
    exact beq_self ha

section

variable {index : Index} {e : Expr} (hc : index.check = .ok ())
  (hnorm : ∀ d ∈ index.documents, d.norm.isNaN = false)
  (hsize : ∀ d ∈ index.documents, d.terms.length < 2 ^ 64) (hterms : e.terms.length < 2 ^ 64)

include hnorm hsize hterms

theorem hit_score_eq_neg_zero_iff {settings : Settings} {hit : Hit} (h : hit ∈ index.search settings e) :
    hit.score.isNaN = false ∧
      (hit.score = -0.0 ↔ ∃ d : Document, index.document? hit.id = some d ∧ Overflows e.terms d) := by
  obtain ⟨d, hd, hscore⟩ := exists_document_of_mem_search h
  have hmem : d ∈ index.documents := Array.mem_of_getElem? hd
  obtain ⟨hnan, hzero⟩ := score_eq_neg_zero_iff (hnorm d hmem) hterms (hsize d hmem)
  rw [hscore, hd]
  refine ⟨hnan, hzero.trans ⟨fun h => ⟨d, rfl, h⟩, ?_⟩⟩
  rintro ⟨d', hd', h⟩
  rwa [Option.some.inj hd']

include hc

theorem pairwise_search (settings : Settings) : (index.search settings e).Pairwise
    fun a b => Precedes a b ∨ a.score = 0.0 ∧ b.score = -0.0 := by
  refine ((ordered_search index settings e).and (distinct_search hc settings e)).imp_of_mem ?_
  rintro a b ha hb ⟨hordered, hid⟩
  exact precedes_of_not_outranks (hit_score_eq_neg_zero_iff hnorm hsize hterms ha).1
    (hit_score_eq_neg_zero_iff hnorm hsize hterms hb).1 hordered hid

theorem pairwise_search_of_not_overflows (h : ∀ d ∈ index.documents, ¬ Overflows e.terms d)
    (settings : Settings) : (index.search settings e).Pairwise Precedes := by
  refine (pairwise_search hc hnorm hsize hterms settings).imp_of_mem fun _ hb hab => hab.resolve_right ?_
  rintro ⟨-, hzero⟩
  obtain ⟨d, hd, hoverflows⟩ := ((hit_score_eq_neg_zero_iff hnorm hsize hterms hb).2).mp hzero
  exact h d (Array.mem_of_getElem? hd) hoverflows

end

/-- On an index that passed the check, every result precedes those after it, by its score or among equal
scores by its id, unless its score is zero and theirs a negative zero. A score is a negative zero exactly
if the divisor of the score is negative and too large for a double. So if that is so for no document, and
in particular on an index as it was built, the scores and the ids alone decide. -/
theorem search_ties {index : Index} (hc : index.check = .ok ())
    (hnorm : ∀ d ∈ index.documents, d.norm.isNaN = false)
    (hsize : ∀ d ∈ index.documents, d.terms.length < 2 ^ 64) (settings : Settings) {e : Expr}
    (hterms : e.terms.length < 2 ^ 64) :
    (index.search settings e).Pairwise
      (fun a b => Precedes a b ∨ a.score = 0.0 ∧ b.score = -0.0) ∧
    (∀ hit ∈ index.search settings e, hit.score.isNaN = false ∧
      (hit.score = -0.0 ↔ ∃ d : Document, index.document? hit.id = some d ∧ Overflows e.terms d)) ∧
    ((∀ d ∈ index.documents, ¬ Overflows e.terms d) → (index.search settings e).Pairwise Precedes) ∧
    (∀ entries : List Entry, index = Index.ofEntries entries →
      (index.search settings e).Pairwise Precedes) := by
  have hordered : (∀ d ∈ index.documents, ¬ Overflows e.terms d) →
      (index.search settings e).Pairwise Precedes :=
    fun hnone => pairwise_search_of_not_overflows hc hnorm hsize hterms hnone settings
  refine ⟨pairwise_search hc hnorm hsize hterms settings,
    fun _ hhit => hit_score_eq_neg_zero_iff hnorm hsize hterms hhit, hordered, ?_⟩
  rintro entries rfl
  exact hordered fun d hd => not_overflows_ofEntries hd e.terms

/-! ## Two documents out of order -/

/-- Two documents with the same word, and with norms that are large and differ in sign. -/
def opposedNorms : Index where
  postings := .ofList [("a", [0, 1])]
  documents := #[⟨0, "", "x", "a", -1e308⟩, ⟨1, "", "y", "a", 1e308⟩]

def repeated : Expr :=
  .and (.word "a") (.word "a")

/-- The norms are numbers, and the repeated word, unlike the single one, makes both divisors infinite. -/
theorem values_opposedNorms :
    repeated.evaluate opposedNorms = [0, 1] ∧
    (∀ d ∈ opposedNorms.documents, d.norm.isNaN = false ∧
      score repeated.terms d = (if d.id = 0 then -0.0 else 0.0) ∧
      (d.norm * (Float.ofNat (sums (Expr.word "a").terms d).weight).sqrt).isInf = false) := by
  decide +kernel

theorem isRanking_opposedNorms : IsRanking opposedNorms repeated [⟨1, 0.0⟩, ⟨0, -0.0⟩] where
  ids := by
    rw [values_opposedNorms.1]
    decide
  scored m hm := by
    have hscore : ∀ (i : ℕ) (d : Document), opposedNorms.documents[i]? = some d →
        score repeated.terms d = if d.id = 0 then -0.0 else 0.0 :=
      fun i d hd => (values_opposedNorms.2 d (Array.mem_of_getElem? hd)).2.1
    rcases List.mem_cons.mp hm with rfl | hm
    · exact ⟨_, rfl, (hscore 1 _ rfl).symm⟩
    · obtain rfl := List.mem_singleton.mp hm
      exact ⟨_, rfl, (hscore 0 _ rfl).symm⟩
  ordered := by
    rw [List.pairwise_pair, Outranks]
    decide

theorem search_opposedNorms : opposedNorms.search {} repeated =
    [⟨1, "y", "a", 0.0⟩, ⟨0, "x", "a", -0.0⟩] := by
  rw [Index.search, ← isRanking_opposedNorms.unique (isRanking_mergeSort opposedNorms repeated)]
  rfl

/-- The document whose score is a negative zero overflows; a query that does not repeat the word finds
both in order. -/
theorem search_ties_opposedNorms :
    opposedNorms.check = .ok () ∧
    (∀ d ∈ opposedNorms.documents, d.norm.isNaN = false) ∧
    (∀ d ∈ opposedNorms.documents, d.terms.length < 2 ^ 64) ∧
    (∃ d : Document, opposedNorms.document? 0 = some d ∧ Overflows repeated.terms d) ∧
    (∀ d ∈ opposedNorms.documents, ¬ Overflows (Expr.word "a").terms d) ∧
    (opposedNorms.search {} (.word "a")).Pairwise Precedes := by
  have hc : opposedNorms.check = .ok () := rfl
  have hnorm : ∀ d ∈ opposedNorms.documents, d.norm.isNaN = false :=
    fun d hd => (values_opposedNorms.2 d hd).1
  have hsize : ∀ d ∈ opposedNorms.documents, d.terms.length < 2 ^ 64 := by decide
  have hnone : ∀ d ∈ opposedNorms.documents, ¬ Overflows (Expr.word "a").terms d := by
    rintro d hd ⟨-, -, hinf⟩
    exact absurd (hinf.symm.trans (values_opposedNorms.2 d hd).2.2) (by decide)
  obtain ⟨-, hscores, -, -⟩ := search_ties hc hnorm hsize {} (by decide : repeated.terms.length < 2 ^ 64)
  obtain ⟨-, -, hordered, -⟩ := search_ties hc hnorm hsize {} (by decide : (Expr.word "a").terms.length < 2 ^ 64)
  refine ⟨hc, hnorm, hsize, ?_, hnone, hordered hnone⟩
  exact ((hscores ⟨0, "x", "a", -0.0⟩ (by rw [search_opposedNorms]; simp)).2).mp rfl

/-- The index passes the check and none of its norms is NaN, but of two results whose scores are equal as
numbers the one with the higher id stands first. -/
theorem not_precedes_opposedNorms :
    opposedNorms.check = .ok () ∧
    (∀ d ∈ opposedNorms.documents, d.norm.isNaN = false) ∧
    ∃ a b : Hit, opposedNorms.search {} repeated = [a, b] ∧ (a.score == b.score) = true ∧ b.id < a.id ∧
      ¬ Precedes a b := by
  refine ⟨rfl, fun d hd => (values_opposedNorms.2 d hd).1, _, _, search_opposedNorms, rfl, by decide, ?_⟩
  rintro (hscore | ⟨-, hid⟩)
  · exact absurd hscore (by decide)
  · exact absurd hid (by decide)

end Concordance.Proofs.Index.Ties
