import Concordance.Proofs.Decimal.Fractions

/-!
# The nearest double

Every number that `reads` as a double has this double as its nearest. The only case in which the
exponents of the two differ is just below a power of two, where doubles lie closer together: the number
is rounded up to the power on the finer grid, which gives the same bits.
-/
namespace Concordance.Proofs.Decimal.Nearest

open Concordance.Decimal Fractions

/-! ## Magnitudes -/

/-- The size of a finite double other than zero. Only the smallest exponent has mantissas without the leading
bit. -/
structure Regular (m : Magnitude) : Prop where
  positive : 0 < m.mantissa
  mantissa_lt : m.mantissa < 0x20000000000000
  exponent_ge : -1074 ≤ m.exponent
  exponent_le : m.exponent ≤ 971
  normal : -1074 < m.exponent → fractionLimit ≤ m.mantissa

def packed (mantissa : ℕ) (exponent : ℤ) : ℕ :=
  if mantissa < fractionLimit then mantissa
  else (exponent + 1075).toNat * fractionLimit + (mantissa - fractionLimit)

theorem ofBits_of_lt {bits : ℕ} (h : bits < fractionLimit) :
    Magnitude.ofBits bits = ⟨bits, -1074⟩ := by
  rw [Magnitude.ofBits]
  simp only [Nat.div_eq_of_lt h, Nat.mod_eq_of_lt h, if_true]

theorem ofBits_of_le {bits : ℕ} (h : fractionLimit ≤ bits) : Magnitude.ofBits bits =
    ⟨bits % fractionLimit + fractionLimit, ((bits / fractionLimit : ℕ) : ℤ) - 1075⟩ := by
  have hne : bits / fractionLimit ≠ 0 := (Nat.div_pos h (by decide)).ne'
  rw [Magnitude.ofBits]
  simp only [if_neg hne]

theorem packed_ofBits (bits : ℕ) :
    packed (Magnitude.ofBits bits).mantissa (Magnitude.ofBits bits).exponent = bits := by
  rcases Nat.lt_or_ge bits fractionLimit with h | h
  · rw [ofBits_of_lt h, packed, if_pos h]
  · have hmantissa : ¬ bits % fractionLimit + fractionLimit < fractionLimit := by omega
    have hexponent : (((bits / fractionLimit : ℕ) : ℤ) - 1075 + 1075).toNat = bits / fractionLimit := by
      rw [sub_add_cancel, Int.toNat_natCast]
    rw [ofBits_of_le h, packed, if_neg hmantissa, hexponent, Nat.add_sub_cancel, Nat.mul_comm]
    exact Nat.div_add_mod bits fractionLimit

theorem regular_ofBits {bits : ℕ} (hpos : 0 < bits) (hlt : bits < infinityBits) :
    Regular (Magnitude.ofBits bits) := by
  rcases Nat.lt_or_ge bits fractionLimit with h | h
  · rw [ofBits_of_lt h]
    refine ⟨hpos, h.trans (by decide), le_rfl, by norm_num, fun hexp => absurd hexp (lt_irrefl _)⟩
  · rw [ofBits_of_le h]
    have hmod := Nat.mod_lt bits (show 0 < fractionLimit by decide)
    have hdiv : bits / fractionLimit < 2047 :=
      Nat.div_lt_of_lt_mul (by rwa [Nat.mul_comm, ← infinityBits])
    have hlimit : fractionLimit = 0x10000000000000 := rfl
    have hdiv' := Nat.div_pos h (by decide)
    refine ⟨Nat.add_pos_right _ (by decide), ?_, ?_, ?_, fun _ => Nat.le_add_left _ _⟩
    · change bits % fractionLimit + fractionLimit < 0x20000000000000
      omega
    · change (-1074 : ℤ) ≤ ((bits / fractionLimit : ℕ) : ℤ) - 1075
      omega
    · change ((bits / fractionLimit : ℕ) : ℤ) - 1075 ≤ 971
      omega

/-! ## What reads as a double -/

theorem rat_value (m : Magnitude) : rat m.value = m.mantissa * 2 ^ m.exponent := by
  rw [Magnitude.value, rat_scaled, Nat.cast_ofNat]

theorem rat_upper (m : Magnitude) : rat m.upper = (m.mantissa + 1 / 2) * 2 ^ m.exponent := by
  rw [Magnitude.upper, rat_scaled, Nat.cast_ofNat, zpow_sub₀ two_ne_zero]
  push_cast
  ring

/-- The part of a unit by which a number may be below a double and still read as it. -/
def slack (m : Magnitude) : ℚ :=
  if m.mantissa = fractionLimit ∧ -1074 < m.exponent then 1 / 4 else 1 / 2

theorem rat_lower {m : Magnitude} (h : Regular m) :
    rat m.lower = (m.mantissa - slack m) * 2 ^ m.exponent := by
  have hpos := h.positive
  rw [Magnitude.lower, slack]
  split_ifs
  · rw [rat_scaled, Nat.cast_ofNat, zpow_sub₀ two_ne_zero, Nat.cast_sub (by omega)]
    push_cast
    ring
  · rw [rat_scaled, Nat.cast_ofNat, zpow_sub₀ two_ne_zero, Nat.cast_sub (by omega)]
    push_cast
    ring

theorem denominator_upper_pos (m : Magnitude) : 0 < m.upper.denominator :=
  denominator_scaled_pos Nat.two_pos _ _

theorem denominator_lower_pos (m : Magnitude) : 0 < m.lower.denominator := by
  rw [Magnitude.lower]
  split_ifs <;> exact denominator_scaled_pos Nat.two_pos _ _

/-- The ends of the interval of a double read as it if its mantissa is even. -/
theorem reads_iff {m : Magnitude} (h : Regular m) {x : Fraction} (hd : 0 < x.denominator) :
    m.reads x = true ↔ if m.mantissa % 2 = 0
      then (m.mantissa - slack m) * 2 ^ m.exponent ≤ rat x ∧ rat x ≤ (m.mantissa + 1 / 2) * 2 ^ m.exponent
      else (m.mantissa - slack m) * 2 ^ m.exponent < rat x ∧ rat x < (m.mantissa + 1 / 2) * 2 ^ m.exponent := by
  rw [Magnitude.reads, ← rat_upper, ← rat_lower h]
  split_ifs
  · rw [Bool.and_eq_true, le_iff (denominator_lower_pos m) hd, le_iff hd (denominator_upper_pos m)]
  · rw [Bool.and_eq_true, lt_iff (denominator_lower_pos m) hd, lt_iff hd (denominator_upper_pos m)]

/-- What reads as a double is within half a unit of it, and half a unit away only if the mantissa is
even. -/
structure Near (m : Magnitude) (q : ℚ) : Prop where
  lower_le : (m.mantissa - slack m) * 2 ^ m.exponent ≤ q
  le_upper : q ≤ (m.mantissa + 1 / 2) * 2 ^ m.exponent
  even : q = (m.mantissa - slack m) * 2 ^ m.exponent ∨ q = (m.mantissa + 1 / 2) * 2 ^ m.exponent →
    m.mantissa % 2 = 0

theorem reads_iff_near {m : Magnitude} (h : Regular m) {x : Fraction} (hd : 0 < x.denominator) :
    m.reads x = true ↔ Near m (rat x) := by
  rw [reads_iff h hd]
  split_ifs with heven
  · exact ⟨fun ⟨hlo, hhi⟩ => ⟨hlo, hhi, fun _ => heven⟩, fun hn => ⟨hn.lower_le, hn.le_upper⟩⟩
  · refine ⟨fun ⟨hlo, hhi⟩ => ⟨hlo.le, hhi.le, fun he => ?_⟩, fun hn => ⟨?_, ?_⟩⟩
    · exact absurd he (not_or.mpr ⟨hlo.ne', hhi.ne⟩)
    · exact hn.lower_le.lt_of_ne fun he => heven (hn.even (Or.inl he.symm))
    · exact hn.le_upper.lt_of_ne fun he => heven (hn.even (Or.inr he))

/-! ## Rounding on a grid of powers of two -/

theorem roundHalfEven_of_div {a b n : ℕ} (hb : 0 < b) (hlo : (n : ℚ) - 1 / 2 ≤ (a : ℚ) / b)
    (hhi : (a : ℚ) / b ≤ n + 1 / 2)
    (heven : (a : ℚ) / b = n - 1 / 2 ∨ (a : ℚ) / b = n + 1 / 2 → n % 2 = 0) :
    roundHalfEven a b = n := by
  have hb' : (0 : ℚ) < b := by exact_mod_cast hb
  rw [le_div_iff₀ hb'] at hlo
  rw [div_le_iff₀ hb'] at hhi
  rw [div_eq_iff hb'.ne', div_eq_iff hb'.ne'] at heven
  apply roundHalfEven_eq hb
  · have : (2 * (n * b) : ℚ) ≤ 2 * a + b := by linarith
    exact_mod_cast this
  · have : (2 * a : ℚ) ≤ 2 * (n * b) + b := by linarith
    exact_mod_cast this
  · rintro (h | h)
    · have h' : (2 * (n * b) : ℚ) = 2 * a + b := by exact_mod_cast h
      exact heven (Or.inl (by linarith))
    · have h' : (2 * a : ℚ) = 2 * (n * b) + b := by exact_mod_cast h
      exact heven (Or.inr (by linarith))

def mantissaAt (x : Fraction) (e : ℤ) : ℕ :=
  if 0 ≤ e then roundHalfEven x.numerator (x.denominator * Nat.pow 2 e.toNat)
  else roundHalfEven (x.numerator * Nat.pow 2 (-e).toNat) x.denominator

theorem mantissaAt_eq {x : Fraction} (hd : 0 < x.denominator) {e : ℤ} {n : ℕ}
    (hlo : ((n : ℚ) - 1 / 2) * 2 ^ e ≤ rat x) (hhi : rat x ≤ (n + 1 / 2) * 2 ^ e)
    (heven : rat x = (n - 1 / 2) * 2 ^ e ∨ rat x = (n + 1 / 2) * 2 ^ e → n % 2 = 0) :
    mantissaAt x e = n := by
  have hpow : (0 : ℚ) < 2 ^ e := by positivity
  rw [← le_div_iff₀ hpow] at hlo
  rw [← div_le_iff₀ hpow] at hhi
  rw [← div_eq_iff hpow.ne', ← div_eq_iff hpow.ne'] at heven
  rw [mantissaAt]
  split_ifs with he
  · obtain ⟨k, rfl⟩ := Int.eq_ofNat_of_zero_le he
    have hrat : rat x / 2 ^ (k : ℤ) = (x.numerator : ℚ) / ((x.denominator * Nat.pow 2 k : ℕ) : ℚ) := by
      rw [rat, div_div, zpow_natCast, Nat.cast_mul, Nat.pow_eq, Nat.cast_pow, Nat.cast_ofNat]
    rw [hrat] at hlo hhi heven
    exact roundHalfEven_of_div (Nat.mul_pos hd (Nat.pow_pos Nat.two_pos)) hlo hhi heven
  · obtain ⟨k, hk⟩ := Int.eq_ofNat_of_zero_le (by omega : 0 ≤ -e)
    have hrat : rat x / 2 ^ e = ((x.numerator * Nat.pow 2 (-e).toNat : ℕ) : ℚ) / x.denominator := by
      rw [rat, show e = -(k : ℤ) by omega, zpow_neg, div_inv_eq_mul, zpow_natCast, neg_neg,
        Int.toNat_natCast, Nat.cast_mul, Nat.pow_eq, Nat.cast_pow, Nat.cast_ofNat,
        div_mul_eq_mul_div]
    rw [hrat] at hlo hhi heven
    exact roundHalfEven_of_div hd hlo hhi heven

theorem nearestBits_eq {x : Fraction} (hn : 0 < x.numerator) :
    nearestBits x = min (packed (mantissaAt x (max (-1074) (x.floorLog2 - 52)))
      (max (-1074) (x.floorLog2 - 52))) infinityBits := by
  rw [nearestBits, if_neg hn.ne']
  rfl

/-! ## The nearest double is the one that was read -/

theorem packed_lt_infinityBits {m : Magnitude} (h : Regular m) :
    packed m.mantissa m.exponent < infinityBits := by
  have hlt := h.mantissa_lt
  have hge := h.exponent_ge
  have hle := h.exponent_le
  rw [packed, infinityBits]
  have hlimit : fractionLimit = 0x10000000000000 := rfl
  split_ifs with hm
  · exact hm.trans_le (Nat.le_mul_of_pos_left _ (by norm_num))
  · rw [hlimit] at hm ⊢
    omega

theorem slack_le (m : Magnitude) : slack m ≤ 1 / 2 := by
  rw [slack]
  split_ifs <;> norm_num

theorem zpow_add_52 (e : ℤ) : (2 : ℚ) ^ (e + 52) = 2 ^ 52 * 2 ^ e := by
  rw [zpow_add₀ two_ne_zero, mul_comm]
  norm_num

/-- The grid a number near a double is rounded on is that of the double, unless the number lies below
a power of two, which is the double itself. -/
theorem grid_of_near {m : Magnitude} (h : Regular m) {q : ℚ} (hq : Near m q) {k : ℤ}
    (hlo : (2 : ℚ) ^ k ≤ q) (hhi : q < 2 ^ (k + 1)) :
    max (-1074) (k - 52) = m.exponent ∨
      max (-1074) (k - 52) = m.exponent - 1 ∧ m.mantissa = fractionLimit ∧
        -1074 < m.exponent ∧ q < m.mantissa * 2 ^ m.exponent := by
  have hge := h.exponent_ge
  have hpow : (0 : ℚ) < 2 ^ m.exponent := by positivity
  have hmlt : (m.mantissa : ℚ) + 1 ≤ 2 ^ 53 := by exact_mod_cast h.mantissa_lt
  have hlimit : (fractionLimit : ℚ) = 2 ^ 52 := by norm_num [fractionLimit]
  have hk : k < m.exponent + 53 := by
    refine (zpow_lt_zpow_iff_right₀ (by norm_num : (1 : ℚ) < 2)).mp (hlo.trans_lt ?_)
    rw [show m.exponent + 53 = m.exponent + 52 + 1 by ring, zpow_add_one₀ two_ne_zero, zpow_add_52]
    nlinarith [hq.le_upper]
  by_cases hfine : max (-1074) (k - 52) = m.exponent
  · exact Or.inl hfine
  · refine Or.inr ?_
    have hexp : -1074 < m.exponent := by omega
    have hk52 : k + 1 ≤ m.exponent + 52 := by omega
    have hbelow : q < 2 ^ 52 * 2 ^ m.exponent := by
      rw [← zpow_add_52]
      exact hhi.trans_le (zpow_le_zpow_right₀ (by norm_num) hk52)
    have hnormal : (fractionLimit : ℚ) ≤ m.mantissa := by exact_mod_cast h.normal hexp
    have hmantissa : m.mantissa = fractionLimit := by
      refine le_antisymm ?_ (h.normal hexp)
      have : (m.mantissa : ℚ) - slack m < 2 ^ 52 :=
        lt_of_mul_lt_mul_right (hq.lower_le.trans_lt hbelow) hpow.le
      have hlt : (m.mantissa : ℚ) < (fractionLimit : ℚ) + 1 := by
        rw [hlimit]
        linarith [slack_le m]
      exact Nat.lt_succ_iff.mp (by exact_mod_cast hlt)
    have hk51 : m.exponent + 51 < k + 1 := by
      refine (zpow_lt_zpow_iff_right₀ (by norm_num : (1 : ℚ) < 2)).mp (lt_of_le_of_lt ?_ hhi)
      have hlower := hq.lower_le
      rw [hmantissa, hlimit] at hlower
      have h51 : (2 : ℚ) ^ (m.exponent + 51) = 2 ^ 51 * 2 ^ m.exponent := by
        rw [zpow_add₀ two_ne_zero, mul_comm]
        norm_num
      rw [h51]
      nlinarith [slack_le m]
    rw [hmantissa, hlimit]
    exact ⟨by omega, rfl, hexp, hbelow⟩

/-- A number that is near a double is rounded to its bits. -/
theorem nearestBits_of_near {m : Magnitude} (h : Regular m) {x : Fraction} (hn : 0 < x.numerator)
    (hd : 0 < x.denominator) (hx : Near m (rat x)) :
    nearestBits x = packed m.mantissa m.exponent := by
  have hpow : (0 : ℚ) < 2 ^ m.exponent := by positivity
  obtain ⟨hlo, hhi⟩ := floorLog2_spec hn hd
  rw [nearestBits_eq hn]
  rcases grid_of_near h hx hlo hhi with hgrid | ⟨hgrid, hmantissa, hexp, hbelow⟩
  · have hlower : ((m.mantissa : ℚ) - 1 / 2) * 2 ^ m.exponent ≤ rat x := by
      refine le_trans ?_ hx.lower_le
      nlinarith [slack_le m]
    have heven : rat x = (m.mantissa - 1 / 2) * 2 ^ m.exponent ∨
        rat x = (m.mantissa + 1 / 2) * 2 ^ m.exponent → m.mantissa % 2 = 0 := by
      rintro (he | he)
      · refine hx.even (Or.inl (le_antisymm ?_ hx.lower_le))
        rw [he]
        nlinarith [slack_le m]
      · exact hx.even (Or.inr he)
    rw [hgrid, mantissaAt_eq hd hlower hx.le_upper heven]
    exact min_eq_left (packed_lt_infinityBits h).le
  · -- on the finer grid the mantissa is twice that of the double
    have hslack : slack m = 1 / 4 := by rw [slack, if_pos ⟨hmantissa, hexp⟩]
    have hhalf : (2 : ℚ) ^ (m.exponent - 1) = 2 ^ m.exponent / 2 := zpow_sub_one₀ two_ne_zero _
    have hlower := hx.lower_le
    rw [hslack] at hlower
    have hround : mantissaAt x (m.exponent - 1) = 2 * m.mantissa := by
      apply mantissaAt_eq hd
      · rw [hhalf]
        push_cast
        linarith
      · rw [hhalf]
        push_cast
        linarith
      · exact fun _ => Nat.mul_mod_right 2 m.mantissa
    have hpacked : packed (2 * m.mantissa) (m.exponent - 1) = packed m.mantissa m.exponent := by
      have hlimit : fractionLimit = 0x10000000000000 := rfl
      rw [packed, packed, if_neg (by omega), if_neg (by omega), hmantissa, hlimit]
      omega
    rw [hgrid, hround, hpacked]
    exact min_eq_left (packed_lt_infinityBits h).le

end Concordance.Proofs.Decimal.Nearest
