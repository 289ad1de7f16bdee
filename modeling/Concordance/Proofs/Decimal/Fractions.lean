import Mathlib.Algebra.Order.Field.Power
import Mathlib.Data.Rat.Cast.Order
import Mathlib.Tactic.FieldSimp
import Mathlib.Tactic.Linarith
import Mathlib.Tactic.Positivity
import Mathlib.Tactic.Ring
import Concordance.Decimal.Shortest

/-!
# Fractions as rational numbers

The decimal modules compare, scale and round pairs of natural numbers. Here each of these operations is
tied to the rational number the pair stands for, which is what the lemmas about doubles are stated with.
-/
namespace Concordance.Proofs.Decimal.Fractions

open Concordance.Decimal

def rat (x : Fraction) : ℚ :=
  x.numerator / x.denominator

theorem denominator_scaled_pos {base : ℕ} (hb : 0 < base) (n : ℕ) (k : ℤ) :
    0 < (Fraction.scaled n base k).denominator := by
  rw [Fraction.scaled]
  split_ifs
  · exact Nat.one_pos
  · exact Nat.pow_pos hb

theorem rat_scaled (n base : ℕ) (k : ℤ) : rat (.scaled n base k) = n * (base : ℚ) ^ k := by
  rw [Fraction.scaled, rat]
  split_ifs with hk
  · obtain ⟨e, rfl⟩ := Int.eq_ofNat_of_zero_le hk
    simp
  · obtain ⟨e, he⟩ := Int.eq_ofNat_of_zero_le (by omega : 0 ≤ -k)
    rw [he, show k = -(e : ℤ) by omega]
    simp [div_eq_mul_inv]

theorem le_iff {a b : Fraction} (ha : 0 < a.denominator) (hb : 0 < b.denominator) :
    a.le b = true ↔ rat a ≤ rat b := by
  rw [Fraction.le, decide_eq_true_eq, rat, rat, div_le_div_iff₀ (by exact_mod_cast ha)
    (by exact_mod_cast hb)]
  exact_mod_cast Iff.rfl

theorem lt_iff {a b : Fraction} (ha : 0 < a.denominator) (hb : 0 < b.denominator) :
    a.lt b = true ↔ rat a < rat b := by
  rw [Fraction.lt, decide_eq_true_eq, rat, rat, div_lt_div_iff₀ (by exact_mod_cast ha)
    (by exact_mod_cast hb)]
  exact_mod_cast Iff.rfl

/-! ## Whole logarithms -/

section
variable {x : Fraction} {base : ℕ} (hd : 0 < x.denominator) (hb : 0 < base)
include hd hb

/-- Whether the search goes on is whether the next power is still at most the number. -/
theorem le_scaled_iff (k : ℤ) : (Fraction.scaled 1 base k).le x = true ↔ (base : ℚ) ^ k ≤ rat x := by
  rw [le_iff (denominator_scaled_pos hb 1 k) hd, rat_scaled, Nat.cast_one, one_mul]

theorem pow_floorLogFrom_le {tries : ℕ} {k : ℤ} (h : (base : ℚ) ^ k ≤ rat x) :
    (base : ℚ) ^ x.floorLogFrom base tries k ≤ rat x := by
  induction tries generalizing k with
  | zero => exact h
  | succ tries ih =>
    rw [Fraction.floorLogFrom]
    split_ifs with hle
    · exact ih ((le_scaled_iff hd hb (k + 1)).mp hle)
    · exact h

theorem lt_pow_floorLogFrom {tries : ℕ} {k : ℤ} (h : rat x < (base : ℚ) ^ (k + tries + 1)) :
    rat x < (base : ℚ) ^ (x.floorLogFrom base tries k + 1) := by
  induction tries generalizing k with
  | zero => simpa [Fraction.floorLogFrom] using h
  | succ tries ih =>
    rw [Fraction.floorLogFrom]
    split_ifs with hle
    · refine ih ?_
      rwa [show k + 1 + (tries : ℤ) + 1 = k + ((tries + 1 : ℕ) : ℤ) + 1 by push_cast; ring]
    · exact lt_of_not_ge fun hge => hle ((le_scaled_iff hd hb (k + 1)).mpr hge)

end

/-- The powers of two next to a fraction are known, but for one step, from those next to its two
parts. -/
theorem rat_bounds {x : Fraction} (hn : 0 < x.numerator) (hd : 0 < x.denominator) :
    (2 : ℚ) ^ ((x.numerator.log2 : ℤ) - x.denominator.log2 - 1) < rat x ∧
      rat x < (2 : ℚ) ^ ((x.numerator.log2 : ℤ) - x.denominator.log2 + 1) := by
  have hnlo : (2 : ℚ) ^ (x.numerator.log2 : ℤ) ≤ x.numerator := by
    exact_mod_cast Nat.log2_self_le hn.ne'
  have hnhi : (x.numerator : ℚ) < (2 : ℚ) ^ ((x.numerator.log2 : ℤ) + 1) := by
    exact_mod_cast Nat.lt_log2_self
  have hdlo : (2 : ℚ) ^ (x.denominator.log2 : ℤ) ≤ x.denominator := by
    exact_mod_cast Nat.log2_self_le hd.ne'
  have hdhi : (x.denominator : ℚ) < (2 : ℚ) ^ ((x.denominator.log2 : ℤ) + 1) := by
    exact_mod_cast Nat.lt_log2_self
  have hdpos : (0 : ℚ) < x.denominator := by exact_mod_cast hd
  constructor
  · rw [rat, lt_div_iff₀ hdpos]
    calc (2 : ℚ) ^ ((x.numerator.log2 : ℤ) - x.denominator.log2 - 1) * x.denominator
        < 2 ^ ((x.numerator.log2 : ℤ) - x.denominator.log2 - 1) *
            2 ^ ((x.denominator.log2 : ℤ) + 1) := by gcongr
      _ = 2 ^ (x.numerator.log2 : ℤ) := by rw [← zpow_add₀ two_ne_zero]; congr 1; ring
      _ ≤ x.numerator := hnlo
  · rw [rat, div_lt_iff₀ hdpos]
    calc (x.numerator : ℚ) < 2 ^ ((x.numerator.log2 : ℤ) + 1) := hnhi
      _ = 2 ^ ((x.numerator.log2 : ℤ) - x.denominator.log2 + 1) *
            2 ^ (x.denominator.log2 : ℤ) := by rw [← zpow_add₀ two_ne_zero]; congr 1; ring
      _ ≤ 2 ^ ((x.numerator.log2 : ℤ) - x.denominator.log2 + 1) * x.denominator := by gcongr

/-- `floorLog2` is the exponent of the greatest power of two that is at most the number. -/
theorem floorLog2_spec {x : Fraction} (hn : 0 < x.numerator) (hd : 0 < x.denominator) :
    (2 : ℚ) ^ x.floorLog2 ≤ rat x ∧ rat x < (2 : ℚ) ^ (x.floorLog2 + 1) := by
  obtain ⟨hlo, hhi⟩ := rat_bounds hn hd
  constructor
  · have h : ((2 : ℕ) : ℚ) ^ x.floorLog2 ≤ rat x :=
      pow_floorLogFrom_le hd Nat.two_pos (by simpa only [Nat.cast_ofNat] using hlo.le)
    simpa only [Nat.cast_ofNat] using h
  · have hstart : rat x < ((2 : ℕ) : ℚ) ^
        ((x.numerator.log2 : ℤ) - x.denominator.log2 - 1 + (2 : ℕ) + 1) := by
      rw [Nat.cast_ofNat]
      refine hhi.trans_le (zpow_le_zpow_right₀ (by norm_num) ?_)
      omega
    have h := lt_pow_floorLogFrom hd Nat.two_pos hstart
    simpa only [Nat.cast_ofNat, Fraction.floorLog2] using h

/-- A power of ten is at most a power of two when the exponents are far enough apart. -/
theorem ten_zpow_le_two_zpow {s u : ℤ} (h : 10 * s ≤ 3 * u) (h' : 93 * s ≤ 28 * u) :
    (10 : ℚ) ^ s ≤ 2 ^ u := by
  rcases le_total 0 u with hu | hu
  · refine (pow_le_pow_iff_left₀ (by positivity) (by positivity) (by norm_num : 10 ≠ 0)).mp ?_
    calc ((10 : ℚ) ^ s) ^ 10 = 10 ^ (10 * s) := by rw [← zpow_natCast, ← zpow_mul]; congr 1; ring
      _ ≤ 10 ^ (3 * u) := zpow_le_zpow_right₀ (by norm_num) h
      _ = ((10 : ℚ) ^ 3) ^ u := by rw [zpow_mul]; norm_num
      _ ≤ ((2 : ℚ) ^ 10) ^ u := zpow_le_zpow_left₀ hu (by norm_num) (by norm_num)
      _ = (2 ^ u) ^ 10 := by rw [← zpow_natCast, ← zpow_natCast, zpow_comm]
  · refine (pow_le_pow_iff_left₀ (by positivity) (by positivity) (by norm_num : 93 ≠ 0)).mp ?_
    calc ((10 : ℚ) ^ s) ^ 93 = 10 ^ (93 * s) := by rw [← zpow_natCast, ← zpow_mul]; congr 1; ring
      _ ≤ 10 ^ (28 * u) := zpow_le_zpow_right₀ (by norm_num) h'
      _ = ((10 : ℚ) ^ 28) ^ u := by rw [zpow_mul]; norm_num
      _ ≤ ((2 : ℚ) ^ 93) ^ u := by
        obtain ⟨n, hn⟩ := Int.eq_ofNat_of_zero_le (by omega : 0 ≤ -u)
        rw [show u = -(n : ℤ) by omega, zpow_neg, zpow_neg, zpow_natCast, zpow_natCast]
        exact inv_anti₀ (by positivity) (pow_le_pow_left₀ (by norm_num) (by norm_num) n)
      _ = (2 ^ u) ^ 93 := by rw [← zpow_natCast, ← zpow_natCast, zpow_comm]

/-- The estimate `floorLog10` starts from is not too large, for numbers in the range of doubles. -/
theorem ten_pow_floorLog10_le {x : Fraction} (hn : 0 < x.numerator) (hd : 0 < x.denominator)
    (hlo : -1100 ≤ (x.numerator.log2 : ℤ) - x.denominator.log2)
    (hhi : (x.numerator.log2 : ℤ) - x.denominator.log2 ≤ 1100) :
    (10 : ℚ) ^ x.floorLog10 ≤ rat x := by
  have hstart : (10 : ℚ) ^ ((((x.numerator.log2 : ℤ) - x.denominator.log2) * 30103).fdiv 100000 - 2) ≤
      rat x := by
    refine le_trans (ten_zpow_le_two_zpow ?_ ?_) (rat_bounds hn hd).1.le
    · rw [Int.fdiv_eq_ediv_of_nonneg _ (by norm_num)]
      omega
    · rw [Int.fdiv_eq_ediv_of_nonneg _ (by norm_num)]
      omega
  have h : ((10 : ℕ) : ℚ) ^ x.floorLog10 ≤ rat x :=
    pow_floorLogFrom_le hd (by norm_num) (by simpa only [Nat.cast_ofNat] using hstart)
  simpa only [Nat.cast_ofNat] using h

/-! ## Rounding to whole numbers -/

/-- A whole number that is less than a half away, or a half away and even, is the one rounded to. -/
theorem roundHalfEven_eq {a b n : ℕ} (hb : 0 < b) (hlo : 2 * (n * b) ≤ 2 * a + b)
    (hhi : 2 * a ≤ 2 * (n * b) + b)
    (heven : 2 * (n * b) = 2 * a + b ∨ 2 * a = 2 * (n * b) + b → n % 2 = 0) :
    roundHalfEven a b = n := by
  have hdiv := Nat.div_add_mod a b
  have hmod := Nat.mod_lt a hb
  rw [roundHalfEven]
  generalize a / b = q at *
  generalize a % b = r at *
  have hge : q ≤ n := by
    by_contra hlt
    have := Nat.mul_le_mul_left b (show n + 1 ≤ q by omega)
    rw [Nat.mul_succ] at this
    grind
  have hle : n ≤ q + 1 := by
    by_contra hlt
    have := Nat.mul_le_mul_left b (show q + 2 ≤ n by omega)
    rw [Nat.mul_add] at this
    grind
  obtain rfl | rfl : n = q ∨ n = q + 1 := by omega
  · rw [Nat.mul_comm n b] at hlo hhi heven
    generalize b * n = p at *
    split_ifs <;> omega
  · rw [Nat.mul_comm (q + 1) b, Nat.mul_succ] at hlo hhi heven
    generalize b * q = p at *
    split_ifs <;> omega

end Concordance.Proofs.Decimal.Fractions
