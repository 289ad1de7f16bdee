import Concordance.Proofs.Index.Contents
import Concordance.Proofs.Index.Norms

/-!
# The sums of a score, term by term

The score groups the terms of a query by their lowercase and multiplies, for each distinct one, how often
the query and the document have it. Counted term by term, that is: every term of the query, as often as it
is repeated, adds its occurrences in the document; and every distinct term that occurs there adds the
square of its repetitions. The two tables the score is made from may be listed in any order.
-/
namespace Concordance.Proofs.Score.Regrouping

open Concordance.Score Counting
open Index.Contents Index.Norms Text.Words

/-! ## Two tables -/

def countIn (table : List (String × Nat)) (word : String) : Nat :=
  (table.lookup word).getD 0

/-- The sums from a table of the query's terms and a table of the document's words. -/
def sumsOfTables (query words : List (String × Nat)) : Sums :=
  query.foldl (fun sums entry => sums.add (countIn words entry.1) entry.2) ⟨0, 0⟩

def scoreOfTables (query words : List (String × Nat)) (norm : Float) : Float :=
  let s := sumsOfTables query words
  if s.weight = 0 || norm == 0.0 then 0.0
  else Float.ofNat s.hits / (norm * (Float.ofNat s.weight).sqrt)

/-- In whatever order a table is listed, it holds the same counts. -/
theorem countIn_visits {words : List String} {table : List (String × Nat)} (h : Visits words table)
    (word : String) : countIn table word = words.count word := by
  rw [countIn]
  cases hl : table.lookup word with
  | none =>
    have hno : word ∉ words := by
      intro hw
      have hentry := (h.counted word _).mpr ⟨hw, rfl⟩
      have hne := List.lookup_eq_none_iff.mp hl _ hentry
      simp at hne
    exact (List.count_eq_zero_of_not_mem hno).symm
  | some n =>
    obtain ⟨before, after, rfl, -⟩ := List.lookup_eq_some_iff.mp hl
    exact ((h.counted word n).mp (by simp)).2

theorem sumsOfTables_visits {terms : List String} {document : Document}
    {query words : List (String × Nat)} (hq : Visits (terms.map Text.lowercase) query)
    (hw : Visits document.terms words) : sumsOfTables query words = sums terms document := by
  rw [← sumsOver_visits hq, sumsOfTables, sumsOver]
  simp only [countIn_visits hw, count_ofList]

theorem scoreOfTables_visits {terms : List String} {document : Document}
    {query words : List (String × Nat)} (hq : Visits (terms.map Text.lowercase) query)
    (hw : Visits document.terms words) :
    scoreOfTables query words document.norm = score terms document := by
  rw [scoreOfTables, sumsOfTables_visits hq hw, score]

/-! ## Regrouping -/

/-- The distinct words with their counts, in the order in which they come up last. -/
theorem visits_dedup (words : List String) :
    Visits words (words.dedup.map fun word => (word, words.count word)) where
  distinct := by
    rw [List.map_map]
    exact (List.map_id _).symm ▸ words.nodup_dedup
  counted word n := by
    rw [List.mem_map]
    constructor
    · rintro ⟨w, hw, he⟩
      obtain ⟨rfl, rfl⟩ := Prod.mk.inj he
      exact ⟨List.mem_dedup.mp hw, rfl⟩
    · rintro ⟨hw, rfl⟩
      exact ⟨word, List.mem_dedup.mpr hw, rfl⟩

/-- A sum over a table is a sum over the distinct words. -/
theorem sum_visits {words : List String} {visits : List (String × Nat)} (h : Visits words visits)
    (f : String × Nat → Nat) :
    (visits.map f).sum = ∑ word ∈ words.toFinset, f (word, words.count word) := by
  have hdistinct : words.dedup.toFinset = words.toFinset := by
    ext word
    rw [List.mem_toFinset, List.mem_toFinset, List.mem_dedup]
  rw [((h.perm (visits_dedup words)).map f).sum_eq, List.map_map, ← hdistinct,
    List.sum_toFinset _ words.nodup_dedup]
  rfl

/-- The sum of the squared counts of all words of a list. -/
theorem sumSquares_eq_sum (words : List String) :
    (Tally.ofList words).sumSquares = ∑ word ∈ words.toFinset, words.count word ^ 2 := by
  rw [sumSquares_eq, sum_visits (visits_toList words)]
  simp only [pow_two]

/-- The occurrences of the query's terms in the document, repeated terms counted again. -/
def termHits (terms : List String) (document : Document) : Nat :=
  (terms.map fun term => document.termCount (Text.lowercase term)).sum

/-- Over the distinct lowercase terms that occur in the document: the square of the number of query
terms with that lowercase. -/
def termWeight (terms : List String) (document : Document) : Nat :=
  ∑ word ∈ (terms.map Text.lowercase).toFinset with word ∈ document.terms,
    (terms.countP fun term => Text.lowercase term = word) ^ 2

theorem count_map_lowercase (terms : List String) (word : String) :
    (terms.map Text.lowercase).count word = terms.countP fun term => Text.lowercase term = word := by
  rw [List.count, List.countP_map]
  rfl

theorem termHits_eq_sum (terms : List String) (document : Document) : termHits terms document =
    ∑ word ∈ (terms.map Text.lowercase).toFinset,
      document.terms.count word * (terms.map Text.lowercase).count word := by
  have hmap : (terms.map fun term => document.termCount (Text.lowercase term)) =
      (terms.map Text.lowercase).map document.terms.count := by
    rw [List.map_map]
    rfl
  rw [termHits, hmap, Finset.sum_list_map_count]
  exact Finset.sum_congr rfl fun word _ => (Nat.mul_comm _ _)

theorem termWeight_eq_sum (terms : List String) (document : Document) : termWeight terms document =
    ∑ word ∈ (terms.map Text.lowercase).toFinset with word ∈ document.terms,
      (terms.map Text.lowercase).count word ^ 2 :=
  Finset.sum_congr rfl fun word _ => by rw [count_map_lowercase]

/-- The sums of a score are those counted term by term. -/
theorem sums_eq (terms : List String) (document : Document) :
    sums terms document = ⟨termHits terms document, termWeight terms document⟩ := by
  rw [sums, sumsOver_eq, sum_visits (visits_toList _), sum_visits (visits_toList _), termHits_eq_sum,
    termWeight_eq_sum, Finset.sum_filter]
  simp only [count_ofList, List.count_eq_zero, ite_not, pow_two]

/-- No term has more hits than the document has copies of a word. -/
theorem hits_le {terms : List String} {d : Document} {bound : Nat}
    (h : ∀ word, d.terms.count word ≤ bound) : (sums terms d).hits ≤ terms.length * bound := by
  have hle : termHits terms d ≤ terms.length * bound := by
    rw [termHits]
    refine (List.sum_le_card_nsmul _ bound fun n hn => ?_).trans_eq (by simp)
    obtain ⟨term, -, rfl⟩ := List.mem_map.mp hn
    exact h _
  rwa [sums_eq]

/-! ## The guard -/

theorem termWeight_eq_zero_iff (terms : List String) (document : Document) :
    termWeight terms document = 0 ↔ ∀ term ∈ terms, Text.lowercase term ∉ document.terms := by
  have hweight : (sums terms document).weight = termWeight terms document := by rw [sums_eq]
  constructor
  · intro h term ht hd
    have hpos := (sums_pos ht hd).2
    omega
  · intro h
    refine Finset.sum_eq_zero fun word hword => ?_
    obtain ⟨hterm, hoccurs⟩ := Finset.mem_filter.mp hword
    obtain ⟨term, ht, rfl⟩ := List.mem_map.mp (List.mem_toFinset.mp hterm)
    exact absurd hoccurs (h term ht)

/-! ## What a score depends on -/

theorem termHits_congr {terms terms' : List String} {d d' : Document}
    (ht : (terms.map Text.lowercase).Perm (terms'.map Text.lowercase)) (hd : d.terms.Perm d'.terms) :
    termHits terms d = termHits terms' d' := by
  rw [termHits_eq_sum, termHits_eq_sum, List.toFinset_eq_of_perm _ _ ht]
  exact Finset.sum_congr rfl fun word _ => by rw [ht.count_eq, hd.count_eq]

theorem termWeight_congr {terms terms' : List String} {d d' : Document}
    (ht : (terms.map Text.lowercase).Perm (terms'.map Text.lowercase)) (hd : d.terms.Perm d'.terms) :
    termWeight terms d = termWeight terms' d' := by
  rw [termWeight_eq_sum, termWeight_eq_sum, List.toFinset_eq_of_perm _ _ ht]
  simp only [ht.count_eq, hd.mem_iff]

theorem score_eq_of_perm {terms terms' : List String} {d d' : Document}
    (ht : (terms.map Text.lowercase).Perm (terms'.map Text.lowercase)) (hd : d.terms.Perm d'.terms)
    (hnorm : d.norm = d'.norm) : score terms d = score terms' d' := by
  rw [score, score, sums_eq, sums_eq, termHits_congr ht hd, termWeight_congr ht hd, hnorm]

/-- The norm does not depend on the order of the words. -/
theorem normOf_congr {words words' : List String} (h : words.Perm words') :
    Document.normOf words = Document.normOf words' := by
  by_cases hne : words = []
  · subst hne
    rw [h.nil_eq]
  have hne' : words' ≠ [] := fun he => hne (he ▸ h).eq_nil
  rw [normOf_of_ne_nil hne, normOf_of_ne_nil hne', sumSquares_widen, sumSquares_widen,
    sum_visits (visits_toList words), sum_visits (visits_toList words'), List.toFinset_eq_of_perm _ _ h]
  simp only [h.count_eq]

/-- Terms that do not occur in the document add nothing to either sum. -/
theorem sums_append_absent {terms extra : List String} {document : Document}
    (h : ∀ term ∈ extra, Text.lowercase term ∉ document.terms) :
    sums (terms ++ extra) document = sums terms document := by
  have hhits : termHits extra document = 0 := by
    refine List.sum_eq_zero fun n hn => ?_
    obtain ⟨term, ht, rfl⟩ := List.mem_map.mp hn
    exact List.count_eq_zero_of_not_mem (h term ht)
  have hwords : {word ∈ ((terms ++ extra).map Text.lowercase).toFinset | word ∈ document.terms} =
      {word ∈ (terms.map Text.lowercase).toFinset | word ∈ document.terms} := by
    ext word
    simp only [Finset.mem_filter, List.mem_toFinset, List.map_append, List.mem_append,
      and_congr_left_iff, or_iff_left_iff_imp]
    intro hoccurs hextra
    obtain ⟨term, ht, rfl⟩ := List.mem_map.mp hextra
    exact absurd hoccurs (h term ht)
  have hweight : termWeight (terms ++ extra) document = termWeight terms document := by
    rw [termWeight, termWeight, hwords]
    refine Finset.sum_congr rfl fun word hword => ?_
    have hnone : extra.countP (fun term => Text.lowercase term = word) = 0 := by
      refine List.countP_eq_zero.mpr fun term ht he => ?_
      exact h term ht (of_decide_eq_true he ▸ (Finset.mem_filter.mp hword).2)
    rw [List.countP_append, hnone, Nat.add_zero]
  have hsplit : termHits (terms ++ extra) document = termHits terms document + termHits extra document := by
    rw [termHits, List.map_append, List.sum_append]
    rfl
  rw [sums_eq, sums_eq, hsplit, hhits, hweight, Nat.add_zero]

/-! ## The score -/

/-- For any terms and any document, and in whatever orders the table of the query's terms and that of the
document's words are listed: the first sum counts, for every term of the query, its occurrences in the
document; the second adds the squared repetitions of every distinct term that occurs there; the score is
zero by its guard exactly if none occurs or the norm is zero, and else their quotient. So it depends only
on the terms up to order and letter case, on the words of the document up to order, and on the norm; if
the document was made from words, these determine the norm; and terms that do not occur change nothing. -/
theorem score_term_by_term (terms : List String) (document : Document) :
    (∀ query words : List (String × Nat), Visits (terms.map Text.lowercase) query →
      Visits document.terms words →
        sumsOfTables query words = ⟨termHits terms document, termWeight terms document⟩ ∧
        scoreOfTables query words document.norm = score terms document) ∧
    sums terms document = ⟨termHits terms document, termWeight terms document⟩ ∧
    ((decide ((sums terms document).weight = 0) || document.norm == 0.0) = true ↔
      (∀ term ∈ terms, Text.lowercase term ∉ document.terms) ∨ (document.norm == 0.0) = true) ∧
    score terms document =
      (if (∀ term ∈ terms, Text.lowercase term ∉ document.terms) ∨ (document.norm == 0.0) = true then 0.0
        else Float.ofNat (termHits terms document) /
          (document.norm * (Float.ofNat (termWeight terms document)).sqrt)) ∧
    (∀ (terms' : List String) (document' : Document),
      (terms.map Text.lowercase).Perm (terms'.map Text.lowercase) →
      document.terms.Perm document'.terms → document.norm = document'.norm →
        score terms document = score terms' document') ∧
    (∀ (terms' : List String) (tokens tokens' : List String) (id id' : DocumentId)
      (title title' url url' : String), (terms.map Text.lowercase).Perm (terms'.map Text.lowercase) →
      (∀ token ∈ tokens, Solid token) → tokens.Perm tokens' →
        score terms (.ofTokens id title url tokens) = score terms' (.ofTokens id' title' url' tokens')) ∧
    ∀ extra all : List String, (∀ term ∈ extra, Text.lowercase term ∉ document.terms) →
      all.Perm (terms ++ extra) → score all document = score terms document := by
  have hguard : (decide ((sums terms document).weight = 0) || document.norm == 0.0) = true ↔
      (∀ term ∈ terms, Text.lowercase term ∉ document.terms) ∨ (document.norm == 0.0) = true := by
    rw [Bool.or_eq_true, decide_eq_true_eq, sums_eq, termWeight_eq_zero_iff]
  refine ⟨fun query words hq hw => ⟨?_, scoreOfTables_visits hq hw⟩, sums_eq terms document, hguard, ?_,
    fun terms' document' => score_eq_of_perm, ?_, fun extra all hextra hall => ?_⟩
  · rw [sumsOfTables_visits hq hw, sums_eq]
  · rw [score]
    simp only [hguard]
    rw [sums_eq]
  · intro terms' tokens tokens' id id' title title' url url' hterms hsolid htokens
    have hsolid' : ∀ token ∈ tokens', Solid token := fun token ht => hsolid token (htokens.mem_iff.mpr ht)
    refine score_eq_of_perm hterms ?_ (normOf_congr htokens)
    rwa [terms_ofTokens hsolid, terms_ofTokens hsolid']
  · rw [score_congr (hall.map Text.lowercase), score, score, sums_append_absent hextra]

/-- Three spellings, of which two are one term, and tables listed in another order than counted. -/
theorem score_mixedSpellings :
    let document := Document.ofTokens 0 "" "x" ["b", "a", "b"]
    let query := [("c", 1), ("b", 2)]
    let words := [("b", 2), ("a", 1)]
    Visits (["B", "c", "b"].map Text.lowercase) query ∧ Visits document.terms words ∧
      sumsOfTables query words = ⟨4, 4⟩ ∧
      (∀ term ∈ ["c"], Text.lowercase term ∉ document.terms) ∧
      score ["B", "c", "b"] document = score ["B", "b"] document := by
  intro document query words
  have hquery : Visits (["B", "c", "b"].map Text.lowercase) query :=
    (visits_dedup _).reordered (by decide)
  have hwords : Visits document.terms words := (visits_dedup _).reordered (by decide)
  have habsent : ∀ term ∈ ["c"], Text.lowercase term ∉ document.terms := by decide
  have hsums := ((score_term_by_term ["B", "c", "b"] document).1 query words hquery hwords).1
  obtain ⟨-, -, -, -, -, -, hextra⟩ := score_term_by_term ["B", "b"] document
  refine ⟨hquery, hwords, ?_, habsent, hextra ["c"] ["B", "c", "b"] habsent (by decide)⟩
  rw [hsums]
  decide

end Concordance.Proofs.Score.Regrouping
