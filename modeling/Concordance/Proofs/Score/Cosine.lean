import Concordance.Proofs.Score.Regrouping

/-!
# The score is a cosine

Over the terms that the query and the document share, the first sum of a score is the inner product of
their counts, and the second is the squared length of the query's. The norm is the length of all of the
document's counts, which is no less than that of the shared ones. So by the inequality of Cauchy and
Schwarz the score, as an exact number, is at most one.
-/
namespace Concordance.Proofs.Score.Cosine

open Concordance.Score Counting Regrouping
open Index.Contents Index.Norms Text.Words

/-! ## Sums over shared words -/

def shared (terms : List String) (document : Document) : Finset String :=
  {word ∈ (terms.map Text.lowercase).toFinset | word ∈ document.terms}

/-- Terms that do not occur in the document may be left out of the inner product. -/
theorem termHits_eq_sum_shared (terms : List String) (document : Document) :
    termHits terms document =
      ∑ word ∈ shared terms document,
        document.terms.count word * (terms.map Text.lowercase).count word := by
  rw [termHits_eq_sum, shared, Finset.sum_filter_of_ne]
  intro word _ hne
  by_contra hno
  exact hne (by rw [List.count_eq_zero_of_not_mem hno, Nat.zero_mul])

theorem sum_shared_le (terms : List String) (document : Document) :
    ∑ word ∈ shared terms document, document.terms.count word ^ 2 ≤
      (Tally.ofList document.terms).sumSquares := by
  rw [sumSquares_eq_sum]
  refine Finset.sum_le_sum_of_subset fun word hword => ?_
  exact List.mem_toFinset.mpr (Finset.mem_filter.mp hword).2

theorem termHits_sq_le (terms : List String) (document : Document) :
    termHits terms document ^ 2 ≤
      (Tally.ofList document.terms).sumSquares * termWeight terms document :=
  calc termHits terms document ^ 2
      = (∑ word ∈ shared terms document,
          document.terms.count word * (terms.map Text.lowercase).count word) ^ 2 := by
        rw [termHits_eq_sum_shared]
    _ ≤ (∑ word ∈ shared terms document, document.terms.count word ^ 2) *
          ∑ word ∈ shared terms document, (terms.map Text.lowercase).count word ^ 2 :=
        Finset.sum_mul_sq_le_sq_mul_sq _ _ _
    _ = (∑ word ∈ shared terms document, document.terms.count word ^ 2) * termWeight terms document := by
        rw [termWeight_eq_sum, shared]
    _ ≤ (Tally.ofList document.terms).sumSquares * termWeight terms document :=
        Nat.mul_le_mul_right _ (sum_shared_le terms document)

/-! ## Exact scores -/

/-- A quotient by roots is at most one if the square of what is divided is at most the product. -/
theorem div_sqrt_le_one {a b c : ℕ} (h : a * a ≤ b * c) : (a : ℝ) / (√b * √c) ≤ 1 := by
  refine div_le_one_of_le₀ ?_ (by positivity)
  rw [← Real.sqrt_mul (Nat.cast_nonneg b)]
  refine Real.le_sqrt_of_sq_le ?_
  rw [pow_two]
  exact_mod_cast h

/-- For a document made from words and any terms of a query, the square of the first sum of the score is
at most the product of the second and the number whose root is the norm: the sum of the squared counts of
all words, as long as these counts fit into 32 bits. So the score, computed exactly, is at most one. -/
theorem score_at_most_one (terms tokens : List String) (h : ∀ token ∈ tokens, Solid token)
    (id : DocumentId) (title url : String) :
    let document := Document.ofTokens id title url tokens
    let s := sums terms document
    let squares := (Tally.ofList tokens).sumSquares
    s.hits * s.hits ≤ squares * s.weight ∧
      squares = ∑ word ∈ tokens.toFinset, tokens.count word ^ 2 ∧
      (tokens ≠ [] → document.norm = (Float.ofNat (Tally.ofList tokens).widen.sumSquares).sqrt) ∧
      (CountsFit tokens → (Tally.ofList tokens).widen.sumSquares = squares) ∧
      (s.hits : ℝ) / (√squares * √s.weight) ≤ 1 := by
  intro document s squares
  have hterms : document.terms = tokens := terms_ofTokens h id title url
  have hle : s.hits * s.hits ≤ squares * s.weight := by
    have hsq := termHits_sq_le terms document
    have hs : s = ⟨termHits terms document, termWeight terms document⟩ := sums_eq terms document
    rw [hs]
    rwa [hterms, pow_two] at hsq
  exact ⟨hle, sumSquares_eq_sum tokens, normOf_of_ne_nil,
    fun hfit => congrArg Tally.sumSquares (widen_ofList_of_countsFit hfit), div_sqrt_le_one hle⟩

/-- Terms in the proportions of the document reach the bound. -/
theorem score_at_most_one_reached :
    let document := Document.ofTokens 0 "" "x" ["b", "a", "b"]
    (∀ token ∈ ["b", "a", "b"], Solid token) ∧
      (sums ["A", "b", "B"] document).hits * (sums ["A", "b", "B"] document).hits ≤
        (Tally.ofList ["b", "a", "b"]).sumSquares * (sums ["A", "b", "B"] document).weight ∧
      (sums ["A", "b", "B"] document).hits = 5 ∧ (sums ["A", "b", "B"] document).weight = 5 ∧
      (Tally.ofList ["b", "a", "b"]).sumSquares = 5 := by
  intro document
  have hsolid : ∀ token ∈ ["b", "a", "b"], Solid token := by decide
  refine ⟨hsolid, (score_at_most_one ["A", "b", "B"] ["b", "a", "b"] hsolid 0 "" "x").1, ?_, ?_, ?_⟩
  · decide
  · decide
  · decide

end Concordance.Proofs.Score.Cosine
