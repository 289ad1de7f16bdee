import Concordance.Proofs.Decimal.Sums
import Concordance.Proofs.Score.Counting

/-!
# The norm of a list of words

A norm is the root of a sum of squares. The counts that are squared have 32 bits, so the sum is that of the
numbers of occurrences as long as these fit, and the norm is zero exactly if all of them are multiples of
`2 ^ 32`. The sum stays far below the largest double for any text that fits into memory, so norms are finite.
Below `2 ^ 53` it is what doubles add up to in any order.
-/
namespace Concordance.Proofs.Index.Norms

open Concordance.Proofs.Decimal.Roots Decimal.Quotients Decimal.Sums Score.Counting

/-- No word occurs more often than 32 bits can count. -/
def CountsFit (words : List String) : Prop :=
  ∀ word, words.count word < 2 ^ 32

/-! ## Sums of squares -/

theorem sumSquares_widen (words : List String) : (Tally.ofList words).widen.sumSquares =
    ((Tally.ofList words : Tally Nat).toList.map fun entry =>
      (entry.2 % 2 ^ 32) * (entry.2 % 2 ^ 32)).sum := by
  rw [widen_ofList, sumSquares_eq, Std.ExtTreeMap.toList_map, List.map_map]
  rfl

theorem sumSquares_widen_le (words : List String) :
    (Tally.ofList words).widen.sumSquares ≤ (Tally.ofList words).sumSquares := by
  rw [sumSquares_widen, sumSquares_eq]
  exact List.sum_le_sum fun entry _ => Nat.mul_le_mul (Nat.mod_le _ _) (Nat.mod_le _ _)

/-- Counts that fit are counted as they are. -/
theorem widen_ofList_of_countsFit {words : List String} (h : CountsFit words) :
    (Tally.ofList words).widen = Tally.ofList words := by
  refine Std.ExtTreeMap.ext_getElem? fun word => ?_
  rw [widen_ofList, Std.ExtTreeMap.getElem?_map, getElem?_ofList]
  split_ifs
  · rw [Option.map_some, Nat.mod_eq_of_lt (h word)]
  · rfl

/-- Nothing is counted if all words occur so often that their counts have gone round to zero. -/
theorem sumSquares_widen_eq_zero_iff (words : List String) :
    (Tally.ofList words).widen.sumSquares = 0 ↔ ∀ word, 2 ^ 32 ∣ words.count word := by
  rw [sumSquares_widen, List.sum_eq_zero_iff]
  constructor
  · intro h word
    by_cases hword : word ∈ words
    · have hentry := ((visits_toList words).counted word _).mpr ⟨hword, rfl⟩
      exact Nat.dvd_of_mod_eq_zero (mul_self_eq_zero.mp (h _ (List.mem_map_of_mem hentry)))
    · rw [List.count_eq_zero_of_not_mem hword]
      exact Nat.dvd_zero _
  · intro h n hn
    obtain ⟨⟨word, n⟩, hentry, rfl⟩ := List.mem_map.mp hn
    obtain ⟨-, rfl⟩ := ((visits_toList words).counted word n).mp hentry
    exact mul_self_eq_zero.mpr (Nat.mod_eq_zero_of_dvd (h word))

/-! ## The size of a norm -/

/-- A table has no more entries than there were words, and no count above their number. -/
theorem sumSquares_le (words : List String) : (Tally.ofList words).sumSquares ≤ words.length ^ 3 := by
  have hvisits := visits_toList words
  have hlength : (Tally.ofList words : Tally Nat).toList.length ≤ words.length := by
    rw [← List.length_map Prod.fst]
    refine (hvisits.distinct.subperm fun word hword => ?_).length_le
    obtain ⟨entry, hentry, rfl⟩ := List.mem_map.mp hword
    exact ((hvisits.counted _ _).mp hentry).1
  have hsquare : ∀ n ∈ (Tally.ofList words : Tally Nat).toList.map (fun entry => entry.2 * entry.2),
      n ≤ words.length ^ 2 := by
    intro n hn
    obtain ⟨⟨word, n⟩, hentry, rfl⟩ := List.mem_map.mp hn
    obtain ⟨-, rfl⟩ := (hvisits.counted word n).mp hentry
    rw [pow_two]
    exact Nat.mul_le_mul List.count_le_length List.count_le_length
  rw [sumSquares_eq]
  calc _ ≤ _ • words.length ^ 2 := List.sum_le_card_nsmul _ _ hsquare
    _ ≤ words.length * words.length ^ 2 := by
        rw [List.length_map, smul_eq_mul]
        exact Nat.mul_le_mul_right _ hlength
    _ = words.length ^ 3 := (pow_succ' words.length 2).symm

theorem sumSquares_lt {words : List String} (h : words.length < 2 ^ 64) :
    (Tally.ofList words).sumSquares < 2 ^ 200 :=
  calc (Tally.ofList words).sumSquares ≤ words.length ^ 3 := sumSquares_le words
    _ < (2 ^ 64) ^ 3 := Nat.pow_lt_pow_left h (by norm_num)
    _ ≤ 2 ^ 200 := by norm_num

theorem normOf_of_ne_nil {words : List String} (h : words ≠ []) :
    Document.normOf words = (Float.ofNat (Tally.ofList words).widen.sumSquares).sqrt := by
  cases words with
  | nil => exact absurd rfl h
  | cons word words => rfl

theorem isFinite_normOf {words : List String} (h : words.length < 2 ^ 64) :
    (Document.normOf words).isFinite = true := by
  cases words with
  | nil => rfl
  | cons word words => exact isFinite_sqrt_ofNat ((sumSquares_widen_le _).trans_lt (sumSquares_lt h))

/-- A norm equals zero exactly if every word occurs a multiple of `2 ^ 32` times. -/
theorem normOf_eq_zero_iff (words : List String) :
    (Document.normOf words == 0.0) = true ↔ ∀ word, 2 ^ 32 ∣ words.count word := by
  by_cases hne : words = []
  · subst hne
    exact iff_of_true rfl fun word => Nat.dvd_zero _
  rw [normOf_of_ne_nil hne, ← sumSquares_widen_eq_zero_iff]
  rcases Nat.eq_zero_or_pos (Tally.ofList words).widen.sumSquares with hzero | hpos
  · rw [hzero]
    exact iff_of_true rfl rfl
  · rw [sqrt_ofNat_ne_zero hpos]
    exact iff_of_false Bool.false_ne_true hpos.ne'

end Concordance.Proofs.Index.Norms
