import Mathlib.Algebra.GroupWithZero.Nat
import Mathlib.Algebra.Order.BigOperators.Group.List
import Mathlib.Algebra.Order.Group.Nat
import Mathlib.Tactic.SplitIfs
import Concordance.Proofs.Index.Building
import Concordance.Score

/-!
# The sums of a score, in any order

The distinct terms of a query, with the number of times the query repeats them, stand in a table that has
no order of its own. The two sums of a score visit all of it, and each visit adds what does not depend on
those before, so the sums are the same in every order, and depend only on how often each term is in the
query and in the document.
-/
namespace Concordance.Proofs.Score.Counting

open Concordance.Score
open Index.Building

/-! ## Tallies -/

private theorem getD_foldl_add (words : List String) (counts : Tally Nat) (word : String) :
    (words.foldl Tally.add counts).getD word 0 = counts.getD word 0 + words.count word := by
  induction words generalizing counts with
  | nil => rfl
  | cons first words ih =>
    rw [List.foldl_cons, ih, Tally.add, Std.ExtTreeMap.getD_insert, List.count_cons]
    simp only [Std.LawfulEqCmp.compare_eq_iff_eq, beq_iff_eq]
    split_ifs with he
    · subst he
      omega
    · rfl

/-- A tally counts the occurrences of every word. -/
theorem count_ofList (words : List String) (word : String) :
    (Tally.ofList words : Tally Nat).count word = words.count word := by
  rw [Tally.count, Tally.ofList, getD_foldl_add]
  simp

theorem getElem?_ofList (words : List String) (word : String) :
    (Tally.ofList words : Tally Nat)[word]? = if word ∈ words then some (words.count word) else none := by
  have hmem := mem_tally words word
  rw [Std.ExtTreeMap.mem_iff_isSome_getElem?] at hmem
  have hcount := count_ofList words word
  rw [Tally.count, Std.ExtTreeMap.getD_eq_getD_getElem?] at hcount
  by_cases hw : word ∈ words
  · obtain ⟨n, hn⟩ := Option.isSome_iff_exists.mp (hmem.mpr hw)
    rw [hn, Option.getD_some] at hcount
    rw [hn, if_pos hw, hcount]
  · rw [if_neg hw]
    exact Option.not_isSome_iff_eq_none.mp (mt hmem.mp hw)

/-- One more occurrence is counted alike in other numbers. -/
theorem add_map {α : Type} [OfNat α 0] [OfNat α 1] [Add α] {f : Nat → α} (hzero : f 0 = 0)
    (hsucc : ∀ n, f (n + 1) = f n + 1) (counts : Tally Nat) (word : String) :
    Tally.add (counts.map fun _ n => f n) word = (counts.add word).map fun _ n => f n := by
  have hcount : (counts.map fun _ n => f n).getD word 0 = f (counts.getD word 0) := by
    rw [Std.ExtTreeMap.getD_eq_getD_getElem?, Std.ExtTreeMap.getD_eq_getD_getElem?,
      Std.ExtTreeMap.getElem?_map]
    cases counts[word]? with
    | none => exact hzero.symm
    | some n => rfl
  refine Std.ExtTreeMap.ext_getElem? fun other => ?_
  rw [Tally.add, Tally.add, hcount, Std.ExtTreeMap.getElem?_insert, Std.ExtTreeMap.getElem?_map,
    Std.ExtTreeMap.getElem?_map, Std.ExtTreeMap.getElem?_insert]
  split_ifs
  · rw [Option.map_some, hsucc]
  · rfl

/-- Counts in other numbers are counts, if these go on by one where the natural numbers do. -/
theorem ofList_eq_map {α : Type} [OfNat α 0] [OfNat α 1] [Add α] {f : Nat → α} (hzero : f 0 = 0)
    (hsucc : ∀ n, f (n + 1) = f n + 1) (words : List String) :
    Tally.ofList words = (Tally.ofList words : Tally Nat).map fun _ n => f n := by
  have hfold : ∀ counts : Tally Nat, words.foldl Tally.add (counts.map fun _ n => f n) =
      (words.foldl Tally.add counts).map fun _ n => f n := by
    induction words with
    | nil => exact fun counts => rfl
    | cons word words ih =>
      intro counts
      rw [List.foldl_cons, add_map hzero hsucc, ih, List.foldl_cons]
  have hempty : ((∅ : Tally Nat).map fun _ n => f n) = ∅ := rfl
  rw [Tally.ofList, Tally.ofList, ← hfold, hempty]

/-- Of a count in 32 bits the multiples of `2 ^ 32` are lost. -/
theorem widen_ofList (words : List String) : (Tally.ofList words).widen =
    (Tally.ofList words : Tally Nat).map fun _ n => n % 2 ^ 32 := by
  have hsucc : ∀ n : Nat, UInt32.ofNat (n + 1) = UInt32.ofNat n + 1 := fun n => UInt32.ofNat_add n 1
  rw [Tally.widen, ofList_eq_map rfl hsucc, Std.ExtTreeMap.map_map]
  simp only [UInt32.toNat_ofNat']

/-! ## Visits -/

/-- A table of counts in some order: each of the words once, with the number of its occurrences. -/
structure Visits (words : List String) (visits : List (String × Nat)) : Prop where
  distinct : (visits.map Prod.fst).Nodup
  counted : ∀ (word : String) (n : Nat), (word, n) ∈ visits ↔ word ∈ words ∧ n = words.count word

theorem visits_toList (words : List String) : Visits words (Tally.ofList words).toList where
  distinct := by
    rw [Std.ExtTreeMap.map_fst_toList_eq_keys]
    exact Std.ExtTreeMap.nodup_keys
  counted word n := by
    rw [Std.ExtTreeMap.mem_toList_iff_getElem?_eq_some, getElem?_ofList]
    split_ifs with hw
    · simp [hw, eq_comm]
    · simp [hw]

namespace Visits

variable {words words' : List String} {xs ys : List (String × Nat)}

/-- Two orders of one table are permutations of one another. -/
theorem perm (hx : Visits words xs) (hy : Visits words ys) : xs.Perm ys := by
  refine (List.perm_ext_iff_of_nodup hx.distinct.of_map hy.distinct.of_map).mpr ?_
  rintro ⟨word, n⟩
  rw [hx.counted, hy.counted]

/-- The order of the words counts for nothing. -/
theorem of_perm (h : words.Perm words') (hx : Visits words xs) : Visits words' xs where
  distinct := hx.distinct
  counted word n := by rw [hx.counted, h.mem_iff, h.count_eq]

theorem reordered (h : xs.Perm ys) (hx : Visits words xs) : Visits words ys where
  distinct := (h.map _).nodup_iff.mp hx.distinct
  counted word n := by rw [← h.mem_iff, hx.counted]

end Visits

/-! ## Sums -/

theorem add_eq (start : Sums) (occurrences multiplicity : Nat) : start.add occurrences multiplicity =
    ⟨start.hits + occurrences * multiplicity,
      start.weight + if occurrences = 0 then 0 else multiplicity * multiplicity⟩ := by
  rw [Sums.add]
  split_ifs <;> rfl

private theorem foldl_add (visits : List (String × Nat)) (words : Tally Nat) (start : Sums) :
    visits.foldl (fun sums entry => sums.add (words.count entry.1) entry.2) start =
      ⟨start.hits + (visits.map fun entry => words.count entry.1 * entry.2).sum,
        start.weight +
          (visits.map fun entry => if words.count entry.1 = 0 then 0 else entry.2 * entry.2).sum⟩ := by
  induction visits generalizing start with
  | nil => rfl
  | cons entry visits ih =>
    rw [List.foldl_cons, ih, add_eq]
    simp only [List.map_cons, List.sum_cons, Nat.add_assoc]

/-- Both are sums over the visits, to which the words that do not occur contribute nothing. -/
theorem sumsOver_eq (visits : List (String × Nat)) (words : Tally Nat) : sumsOver visits words =
    ⟨(visits.map fun entry => words.count entry.1 * entry.2).sum,
      (visits.map fun entry => if words.count entry.1 = 0 then 0 else entry.2 * entry.2).sum⟩ := by
  rw [sumsOver, foldl_add, Nat.zero_add, Nat.zero_add]

theorem sumsOver_perm {xs ys : List (String × Nat)} (h : xs.Perm ys) (words : Tally Nat) :
    sumsOver xs words = sumsOver ys words := by
  rw [sumsOver_eq, sumsOver_eq, (h.map _).sum_eq, (h.map _).sum_eq]

/-- In whatever order the query's terms are visited, the sums are those of the score. -/
theorem sumsOver_visits {terms : List String} {visits : List (String × Nat)}
    (h : Visits (terms.map Text.lowercase) visits) (document : Document) :
    sumsOver visits (Tally.ofList document.terms) = sums terms document :=
  sumsOver_perm (h.perm (visits_toList _)) _

/-- Queries with the same terms, in any order and any letter case, have the same sums. -/
theorem sums_congr {terms terms' : List String}
    (h : (terms.map Text.lowercase).Perm (terms'.map Text.lowercase)) (document : Document) :
    sums terms document = sums terms' document :=
  (sumsOver_visits ((visits_toList _).of_perm h.symm) document).symm

def scoreOver (visits : List (String × Nat)) (document : Document) : Float :=
  let s := sumsOver visits (Tally.ofList document.terms)
  if s.weight = 0 || document.norm == 0.0 then 0.0
  else Float.ofNat s.hits / (document.norm * (Float.ofNat s.weight).sqrt)

theorem scoreOver_visits {terms : List String} {visits : List (String × Nat)}
    (h : Visits (terms.map Text.lowercase) visits) (document : Document) :
    scoreOver visits document = score terms document := by
  rw [scoreOver, score, sumsOver_visits h]

theorem score_congr {terms terms' : List String}
    (h : (terms.map Text.lowercase).Perm (terms'.map Text.lowercase)) (document : Document) :
    score terms document = score terms' document := by
  rw [score, score, sums_congr h]

private theorem le_sum_map (f : String × Nat → Nat) {entry : String × Nat}
    {entries : List (String × Nat)} (h : entry ∈ entries) : f entry ≤ (entries.map f).sum :=
  List.single_le_sum (fun _ _ => Nat.zero_le _) _ (List.mem_map_of_mem h)

/-- A term of the query that occurs in the document counts in both sums. -/
theorem sums_pos {terms : List String} {term : String} {document : Document} (ht : term ∈ terms)
    (hd : Text.lowercase term ∈ document.terms) :
    1 ≤ (sums terms document).hits ∧ 1 ≤ (sums terms document).weight := by
  let lowered := terms.map Text.lowercase
  let multiplicity := lowered.count (Text.lowercase term)
  have hlowered : Text.lowercase term ∈ lowered := List.mem_map_of_mem ht
  have hentry : (Text.lowercase term, multiplicity) ∈ (Tally.ofList lowered).toList :=
    ((visits_toList lowered).counted _ _).mpr ⟨hlowered, rfl⟩
  have hmultiplicity : 1 ≤ multiplicity := List.count_pos_iff.mpr hlowered
  have hoccurs : 1 ≤ (Tally.ofList document.terms : Tally Nat).count (Text.lowercase term) := by
    rw [count_ofList]
    exact List.count_pos_iff.mpr hd
  rw [sums, sumsOver_eq]
  constructor
  · refine le_trans ?_ (le_sum_map _ hentry)
    exact Nat.mul_le_mul hoccurs hmultiplicity
  · refine le_trans ?_ (le_sum_map _ hentry)
    rw [if_neg (Nat.one_le_iff_ne_zero.mp hoccurs)]
    exact Nat.mul_le_mul hmultiplicity hmultiplicity

/-! ## Sums of squares -/

theorem sumSquares_eq (counts : Tally Nat) :
    counts.sumSquares = (counts.toList.map fun entry => entry.2 * entry.2).sum := by
  rw [Tally.sumSquares, List.sum_eq_foldr, List.foldr_map]

/-- The weight is at most the sum of the squares of all multiplicities. -/
theorem weight_le (terms : List String) (document : Document) :
    (sums terms document).weight ≤ (Tally.ofList (terms.map Text.lowercase)).sumSquares := by
  rw [sums, sumsOver_eq, sumSquares_eq]
  refine List.sum_le_sum fun entry _ => ?_
  split_ifs
  · exact Nat.zero_le _
  · exact le_rfl

end Concordance.Proofs.Score.Counting
