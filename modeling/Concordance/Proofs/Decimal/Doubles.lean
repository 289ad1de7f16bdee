import Mathlib
import Concordance.Proofs.Decimal.Digits

/-!
# Doubles and their decimal digits

A finite double is found again from any decimal number that is near it: the cut-offs for exponents
beyond any double are never taken, and rounding gives its bits. The sign is kept apart, so a negative
zero comes back as one.

That a double is known by its bits is a lemma that comes with the whole of Mathlib only.
-/
namespace Concordance.Proofs.Decimal.Doubles

open Concordance.Decimal Fractions Nearest Digits
open Float.Model (Format UnpackedFloat)

/-! ## Finite doubles by their bits -/

theorem toNat_unpackExponent (b : BitVec Format.binary64.numBits) :
    (@UnpackedFloat.unpackExponent Format.binary64 b).toNat =
      b.toNat / fractionLimit % 2048 := by
  simp [UnpackedFloat.unpackExponent, Nat.shiftRight_eq_div_pow, fractionLimit]

theorem isFinite_unpack_iff (b : BitVec Format.binary64.numBits) :
    (UnpackedFloat.unpack Format.binary64 b).isFinite = true ↔
      @UnpackedFloat.unpackExponent Format.binary64 b ≠ -1#11 := by
  rw [UnpackedFloat.unpack]
  simp only
  split_ifs <;> simp_all [UnpackedFloat.isFinite]

/-- A double is finite unless all eleven bits of its exponent are set. -/
theorem isFinite_iff (x : Float) :
    x.isFinite = true ↔ x.toBits.toNat % signBit < infinityBits := by
  have hbits : x.toBits.toNat = x.toModel.toBits.toBitVec.toNat := rfl
  have hlt : x.toBits.toNat < 0x10000000000000000 := x.toBits.toNat_lt
  have hfinite : x.isFinite = true ↔
      (UnpackedFloat.unpack Format.binary64 x.toModel.toBits.toBitVec).isFinite = true := Iff.rfl
  rw [hfinite, isFinite_unpack_iff, ne_eq, ← BitVec.toNat_inj, toNat_unpackExponent, ← hbits]
  simp only [signBit, infinityBits, fractionLimit]
  norm_num
  omega

theorem isInf_of_isFinite {x : Float} (h : x.isFinite = true) : x.isInf = false := by
  have hf : x.toModel.unpack.isFinite = true := h
  have hi : x.isInf = x.toModel.unpack.isInf := rfl
  rw [hi]
  cases hu : x.toModel.unpack with
  | infinity s => rw [hu] at hf; cases hf
  | notANumber => rfl
  | zero s => rfl
  | finite s m e hm => rfl

/-! ## Rounding to a finite double -/

/-- What is near a double lies well inside the range the cut-offs leave. -/
theorem near_bounds {m : Magnitude} (h : Regular m) {q : ℚ} (hq : Near m q) :
    (2 : ℚ) ^ (-1075 : ℤ) ≤ q ∧ q < 2 ^ (1024 : ℤ) := by
  have hpow : (0 : ℚ) < 2 ^ m.exponent := by positivity
  have hone : (1 : ℚ) ≤ m.mantissa := by exact_mod_cast h.positive
  have hlt : (m.mantissa : ℚ) + 1 ≤ 2 ^ (53 : ℤ) := by exact_mod_cast h.mantissa_lt
  have hge : (2 : ℚ) ^ (-1074 : ℤ) ≤ 2 ^ m.exponent := zpow_le_zpow_right₀ (by norm_num) h.exponent_ge
  have hle : (2 : ℚ) ^ m.exponent ≤ 2 ^ (971 : ℤ) := zpow_le_zpow_right₀ (by norm_num) h.exponent_le
  constructor
  · have hhalf : (2 : ℚ) ^ (-1075 : ℤ) = 1 / 2 * 2 ^ (-1074 : ℤ) := by
      rw [show (-1075 : ℤ) = -1 + -1074 by norm_num, zpow_add₀ two_ne_zero, zpow_neg_one, one_div]
    rw [hhalf]
    refine le_trans ?_ hq.lower_le
    nlinarith [slack_le m]
  · rw [show (1024 : ℤ) = 53 + 971 by norm_num, zpow_add₀ two_ne_zero]
    calc q ≤ (m.mantissa + 1 / 2) * 2 ^ m.exponent := hq.le_upper
      _ < 2 ^ (53 : ℤ) * 2 ^ m.exponent := mul_lt_mul_of_pos_right (by linarith) hpow
      _ ≤ 2 ^ (53 : ℤ) * 2 ^ (971 : ℤ) := mul_le_mul_of_nonneg_left hle (by positivity)

/-- The number of digits of a coefficient tells the power of ten below the number. -/
theorem digits_bounds {c : ℕ} (hc : c ≠ 0) (e : ℤ) :
    (10 : ℚ) ^ (((Nat.toDigits 10 c).length : ℤ) + e - 1) ≤ c * 10 ^ e ∧
      (c : ℚ) * 10 ^ e < 10 ^ (((Nat.toDigits 10 c).length : ℤ) + e) := by
  obtain ⟨n, hn⟩ : ∃ n : ℕ, (Nat.toDigits 10 c).length = n + 1 :=
    ⟨_, (Nat.succ_pred_eq_of_pos Nat.length_toDigits_pos).symm⟩
  have hpow : (0 : ℚ) < 10 ^ e := by positivity
  have hlo : 10 ^ n ≤ c := by
    rcases Nat.eq_zero_or_pos n with rfl | hpos
    · exact Nat.one_le_iff_ne_zero.mpr hc
    · by_contra hlt
      have := (Nat.length_toDigits_le_iff (by norm_num) hpos).mpr (not_le.mp hlt)
      omega
  have hhi : c < 10 ^ (n + 1) := (Nat.length_toDigits_le_iff (by norm_num) n.succ_pos).mp hn.le
  have hlo' : (10 : ℚ) ^ n ≤ c := by exact_mod_cast hlo
  have hhi' : (c : ℚ) < 10 ^ (n + 1) := by exact_mod_cast hhi
  rw [hn, show ((n + 1 : ℕ) : ℤ) + e - 1 = n + e by push_cast; ring, zpow_add₀ (by norm_num),
    zpow_add₀ (by norm_num), zpow_natCast, zpow_natCast]
  exact ⟨mul_le_mul_of_nonneg_right hlo' hpow.le, mul_lt_mul_of_pos_right hhi' hpow⟩

/-- The bits of a double are its sign and the bits of its size. -/
theorem ofBits_sign_rest (x : Float) :
    Float.ofBits (UInt64.ofNat (if decide (signBit ≤ x.toBits.toNat) = true
      then x.toBits.toNat % signBit + signBit else x.toBits.toNat % signBit)) = x := by
  have hbits : (if decide (signBit ≤ x.toBits.toNat) = true
      then x.toBits.toNat % signBit + signBit else x.toBits.toNat % signBit) = x.toBits.toNat := by
    have hlt : x.toBits.toNat < 0x10000000000000000 := x.toBits.toNat_lt
    by_cases hsign : signBit ≤ x.toBits.toNat
    · rw [if_pos (decide_eq_true hsign)]
      simp only [signBit] at hsign ⊢
      omega
    · rw [if_neg (by simpa using hsign)]
      exact Nat.mod_eq_of_lt (not_le.mp hsign)
  rw [hbits, UInt64.ofNat_toNat, Float.ofBits_toBits]

/-- A finite double other than the zeros is read from every number near it. -/
theorem toFloat_of_near {x : Float} (hx : x.isFinite = true) (hne : x.toBits.toNat % signBit ≠ 0)
    {c : ℕ} {e : ℤ} (hnear : Near (Magnitude.ofBits (x.toBits.toNat % signBit)) (c * 10 ^ e)) :
    toFloat (decide (signBit ≤ x.toBits.toNat)) c e = x := by
  have hregular := regular_ofBits (Nat.pos_of_ne_zero hne) ((isFinite_iff x).mp hx)
  obtain ⟨hlo, hhi⟩ := near_bounds hregular hnear
  have hc : c ≠ 0 := by
    rintro rfl
    rw [Nat.cast_zero, zero_mul] at hlo
    exact absurd hlo (not_le.mpr (by positivity))
  obtain ⟨hfrom, hbelow⟩ := digits_bounds hc e
  have hten : ¬ ((Nat.toDigits 10 c).length : ℤ) + e < -400 := fun hlt =>
    absurd (hlo.trans_lt (hbelow.trans_le ((zpow_le_zpow_right₀ (by norm_num) hlt.le).trans
      (ten_zpow_le_two_zpow (by norm_num : (10 : ℤ) * -400 ≤ 3 * -1075) (by norm_num))))) (lt_irrefl _)
  have htop : ¬ 400 < ((Nat.toDigits 10 c).length : ℤ) + e := fun hlt => by
    have hge : (10 : ℚ) ^ (400 : ℤ) ≤ c * 10 ^ e :=
      (zpow_le_zpow_right₀ (by norm_num) (by omega)).trans hfrom
    have hpowers : (2 : ℚ) ^ (1024 : ℤ) ≤ 10 ^ (400 : ℤ) :=
      calc (2 : ℚ) ^ (1024 : ℤ) ≤ 2 ^ (3 * 400 : ℤ) := zpow_le_zpow_right₀ (by norm_num) (by norm_num)
        _ = (2 ^ (3 : ℤ)) ^ (400 : ℤ) := zpow_mul 2 3 400
        _ ≤ 10 ^ (400 : ℤ) := zpow_le_zpow_left₀ (by norm_num) (by positivity) (by norm_num)
    exact absurd (hhi.trans_le (hpowers.trans hge)) (lt_irrefl _)
  have hnum : 0 < (Fraction.scaled c 10 e).numerator := by
    rw [Fraction.scaled]
    split_ifs
    · exact Nat.mul_pos (Nat.pos_of_ne_zero hc) (Nat.pow_pos (by norm_num))
    · exact Nat.pos_of_ne_zero hc
  have hrat : rat (Fraction.scaled c 10 e) = c * 10 ^ e := by rw [rat_scaled, Nat.cast_ofNat]
  have hbits := nearestBits_of_near hregular hnum (denominator_scaled_pos (by norm_num) c e)
    (hrat ▸ hnear)
  rw [packed_ofBits] at hbits
  rw [toFloat]
  simp only [hc, hten, htop, false_or, if_false, hbits]
  exact ofBits_sign_rest x

/-- The two zeros are read from a zero with their sign. -/
theorem toFloat_zero {x : Float} (hx : x.toBits.toNat % signBit = 0) (e : ℤ) :
    toFloat (decide (signBit ≤ x.toBits.toNat)) 0 e = x := by
  have hbits := ofBits_sign_rest x
  rw [hx] at hbits
  rw [toFloat]
  simpa only [true_or, if_true] using hbits

end Concordance.Proofs.Decimal.Doubles
