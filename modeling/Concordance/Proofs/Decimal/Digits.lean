import Concordance.Proofs.Decimal.Nearest

/-!
# The shortest digits read back

A grid of powers of ten that is finer than the interval of a double has a point in the interval next
to the double, on one side of it or the other. With seventeen digits the grid is that fine for every
double, so the search for the shortest digits succeeds, and what it finds reads as the double.
-/
namespace Concordance.Proofs.Decimal.Digits

open Concordance.Decimal Fractions Nearest

theorem denominator_value_pos (d : Decimal.Digits) : 0 < d.value.denominator :=
  denominator_scaled_pos (by norm_num) _ _

theorem rat_digits (d : Decimal.Digits) : rat d.value = d.coefficient * 10 ^ d.exponent := by
  rw [Decimal.Digits.value, rat_scaled, Nat.cast_ofNat]

/-! ## One grid -/

/-- The point of a grid below a double, counted in its units. -/
def pointBelow (m : Magnitude) (k : ℤ) : ℕ :=
  m.value.numerator * (Fraction.scaled 1 10 k).denominator /
    (m.value.denominator * (Fraction.scaled 1 10 k).numerator)

/-- Of the two points on either side of a double one is taken that reads as it, unless neither does. -/
theorem onGrid?_cases (m : Magnitude) (tie : Tie) (k : ℤ) :
    (∃ d : Decimal.Digits, m.onGrid? tie k = some d ∧ m.reads d.value = true) ∨
      m.onGrid? tie k = none ∧
        m.reads (Decimal.Digits.mk (pointBelow m k) k).value = false ∧
        m.reads (Decimal.Digits.mk (pointBelow m k + 1) k).value = false := by
  have hpoint : m.value.numerator * (Fraction.scaled 1 10 k).denominator /
      (m.value.denominator * (Fraction.scaled 1 10 k).numerator) = pointBelow m k := rfl
  rw [Magnitude.onGrid?.eq_def]
  simp only [hpoint]
  cases hlow : m.reads (Decimal.Digits.mk (pointBelow m k) k).value <;>
    cases hhigh : m.reads (Decimal.Digits.mk (pointBelow m k + 1) k).value
  · exact Or.inr ⟨rfl, rfl, rfl⟩
  · exact Or.inl ⟨_, rfl, hhigh⟩
  · exact Or.inl ⟨_, rfl, hlow⟩
  · refine Or.inl ?_
    simp only
    split_ifs
    · exact ⟨_, rfl, hlow⟩
    · exact ⟨_, rfl, hhigh⟩
    · cases tie
      · exact ⟨_, rfl, hhigh⟩
      · exact ⟨_, rfl, hlow⟩
    · cases tie <;> exact ⟨_, rfl, hhigh⟩

theorem pointBelow_bounds (m : Magnitude) (k : ℤ) :
    (pointBelow m k : ℚ) * 10 ^ k ≤ rat m.value ∧
      rat m.value < ((pointBelow m k : ℚ) + 1) * 10 ^ k := by
  have hd : 0 < m.value.denominator := denominator_scaled_pos Nat.two_pos _ _
  have hunit : rat (Fraction.scaled 1 10 k) = 10 ^ k := by rw [rat_scaled]; norm_num
  have hunitd := denominator_scaled_pos (show 0 < 10 by norm_num) 1 k
  have hunitn : 0 < (Fraction.scaled 1 10 k).numerator := by
    rw [Fraction.scaled]
    split_ifs
    · exact Nat.mul_pos Nat.one_pos (Nat.pow_pos (by norm_num))
    · exact Nat.one_pos
  have hbottom : 0 < m.value.denominator * (Fraction.scaled 1 10 k).numerator := Nat.mul_pos hd hunitn
  have hvalue : rat m.value =
      ((m.value.numerator * (Fraction.scaled 1 10 k).denominator : ℕ) : ℚ) /
        ((m.value.denominator * (Fraction.scaled 1 10 k).numerator : ℕ) : ℚ) * 10 ^ k := by
    rw [← hunit, rat, rat]
    push_cast
    field_simp
  have hpow : (0 : ℚ) < 10 ^ k := by positivity
  rw [hvalue, pointBelow]
  constructor
  · refine mul_le_mul_of_nonneg_right ?_ hpow.le
    rw [le_div_iff₀ (by exact_mod_cast hbottom)]
    exact_mod_cast Nat.div_mul_le_self _ _
  · refine mul_lt_mul_of_pos_right ?_ hpow
    rw [div_lt_iff₀ (by exact_mod_cast hbottom)]
    have hlt := Nat.lt_div_mul_add (a := m.value.numerator * (Fraction.scaled 1 10 k).denominator) hbottom
    rw [← Nat.succ_mul] at hlt
    exact_mod_cast hlt

theorem slack_pos (m : Magnitude) : 0 < slack m := by
  rw [slack]
  split_ifs <;> norm_num

/-- The interval of a double is wider than a grid of seventeen digits. -/
theorem lt_width {m : Magnitude} (h : Regular m) {k : ℤ} (hk : (10 : ℚ) ^ (k + 16) ≤ rat m.value) :
    (10 : ℚ) ^ k < (1 / 2 + slack m) * 2 ^ m.exponent := by
  have hpow : (0 : ℚ) < 2 ^ m.exponent := by positivity
  have hmlt : (m.mantissa : ℚ) + 1 ≤ 2 ^ 53 := by exact_mod_cast h.mantissa_lt
  have hten : (10 : ℚ) ^ (k + 16) = 10 ^ 16 * 10 ^ k := by
    rw [zpow_add₀ (by norm_num), mul_comm]
    norm_num
  rw [rat_value, hten] at hk
  rw [slack]
  split_ifs with hm
  · rw [hm.1] at hk
    norm_num [fractionLimit] at hk
    linarith
  · nlinarith

theorem onGrid?_ne_none {m : Magnitude} (h : Regular m) (tie : Tie) {k : ℤ}
    (hk : (10 : ℚ) ^ (k + 16) ≤ rat m.value) : m.onGrid? tie k ≠ none := by
  intro hnone
  rcases onGrid?_cases m tie k with ⟨d, hd, -⟩ | ⟨-, hlow, hhigh⟩
  · rw [hnone] at hd
    cases hd
  obtain ⟨hbelow, habove⟩ := pointBelow_bounds m k
  rw [Bool.eq_false_iff, ne_eq, reads_iff_near h (denominator_value_pos _), rat_digits] at hlow hhigh
  rw [rat_value] at hbelow habove
  have hwidth := lt_width h hk
  have hpow : (0 : ℚ) < 2 ^ m.exponent := by positivity
  have hslack := slack_pos m
  -- neither point is in the interval, so the interval fits between them
  have hlower : (pointBelow m k : ℚ) * 10 ^ k ≤ (m.mantissa - slack m) * 2 ^ m.exponent := by
    by_contra hlt
    rw [not_le] at hlt
    refine hlow ⟨hlt.le, ?_, ?_⟩
    · simp only
      nlinarith
    · rintro (he | he)
      · exact absurd he hlt.ne'
      · simp only at he
        nlinarith
  have hupper : ((m.mantissa : ℚ) + 1 / 2) * 2 ^ m.exponent ≤ ((pointBelow m k : ℚ) + 1) * 10 ^ k := by
    by_contra hlt
    rw [not_le] at hlt
    refine hhigh ⟨?_, ?_, ?_⟩
    · simp only
      push_cast
      nlinarith
    · simp only
      push_cast
      exact hlt.le
    · simp only
      push_cast
      rintro (he | he)
      · nlinarith
      · exact absurd he hlt.ne
  linarith

/-! ## The search -/

theorem reads_firstGrid {m : Magnitude} {tie : Tie} {tries : ℕ} {k : ℤ}
    (h : ∃ j : ℕ, j < tries ∧ m.onGrid? tie (k - j) ≠ none) :
    m.reads (m.firstGrid tie tries k).value = true := by
  induction tries generalizing k with
  | zero => exact absurd h (by simp)
  | succ tries ih =>
    rw [Magnitude.firstGrid]
    rcases onGrid?_cases m tie k with ⟨d, hd, hreads⟩ | ⟨hk, -, -⟩
    · rw [hd]
      exact hreads
    · rw [hk]
      obtain ⟨j, hj, hgrid⟩ := h
      cases j with
      | zero => exact absurd hk (by simpa using hgrid)
      | succ j =>
        refine ih ⟨j, by omega, ?_⟩
        rwa [show k - 1 - (j : ℤ) = k - ((j + 1 : ℕ) : ℤ) by push_cast; ring]

theorem rat_stripped (d : Decimal.Digits) (count : ℕ) : rat (d.stripped count).value = rat d.value := by
  induction count generalizing d with
  | zero => rfl
  | succ count ih =>
    rw [Decimal.Digits.stripped]
    split_ifs with h
    · rw [ih, rat_digits, rat_digits]
      obtain ⟨c, hc⟩ := Nat.dvd_of_mod_eq_zero h.2
      rw [hc, Nat.mul_div_cancel_left c (by norm_num), zpow_add_one₀ (by norm_num)]
      push_cast
      ring
    · rfl

theorem numerator_value_pos {m : Magnitude} (h : Regular m) : 0 < m.value.numerator := by
  rw [Magnitude.value, Fraction.scaled]
  split_ifs
  · exact Nat.mul_pos h.positive (Nat.pow_pos Nat.two_pos)
  · exact h.positive

/-- The logarithms of the two parts of a double are in the range in which the first grid is found. -/
theorem log2_value_bounds {m : Magnitude} (h : Regular m) :
    -1100 ≤ (m.value.numerator.log2 : ℤ) - m.value.denominator.log2 ∧
      (m.value.numerator.log2 : ℤ) - m.value.denominator.log2 ≤ 1100 := by
  have hd : 0 < m.value.denominator := denominator_scaled_pos Nat.two_pos _ _
  obtain ⟨hlo, hhi⟩ := rat_bounds (numerator_value_pos h) hd
  have hge := h.exponent_ge
  have hle := h.exponent_le
  have hpos : (1 : ℚ) ≤ m.mantissa := by exact_mod_cast h.positive
  have hlt : (m.mantissa : ℚ) ≤ 2 ^ (53 : ℤ) := by exact_mod_cast h.mantissa_lt.le
  have hpow : (0 : ℚ) < 2 ^ m.exponent := by positivity
  rw [rat_value] at hlo hhi
  have hbelow : (2 : ℚ) ^ m.exponent < 2 ^ ((m.value.numerator.log2 : ℤ) - m.value.denominator.log2 + 1) :=
    lt_of_le_of_lt (le_mul_of_one_le_left hpow.le hpos) hhi
  have habove : (2 : ℚ) ^ ((m.value.numerator.log2 : ℤ) - m.value.denominator.log2 - 1) <
      2 ^ (53 + m.exponent) := by
    rw [zpow_add₀ two_ne_zero]
    exact hlo.trans_le (mul_le_mul_of_nonneg_right hlt hpow.le)
  rw [zpow_lt_zpow_iff_right₀ (by norm_num)] at hbelow habove
  omega

/-- The shortest digits of a double read back as it. -/
theorem near_shortest {m : Magnitude} (h : Regular m) (tie : Tie) :
    Near m ((m.shortest tie).coefficient * 10 ^ (m.shortest tie).exponent) := by
  have hd : 0 < m.value.denominator := denominator_scaled_pos Nat.two_pos _ _
  obtain ⟨hlo, hhi⟩ := log2_value_bounds h
  have hstart := ten_pow_floorLog10_le (numerator_value_pos h) hd hlo hhi
  have hfound : m.reads (m.firstGrid tie 17 m.value.floorLog10).value = true := by
    refine reads_firstGrid ⟨16, by norm_num, onGrid?_ne_none h tie ?_⟩
    rwa [show m.value.floorLog10 - ((16 : ℕ) : ℤ) + 16 = m.value.floorLog10 by push_cast; ring]
  rw [reads_iff_near h (denominator_value_pos _)] at hfound
  rwa [← rat_digits, Magnitude.shortest, rat_stripped]

end Concordance.Proofs.Decimal.Digits
