import Concordance.Proofs.Decimal.Roots

/-!
# Quotients by square roots are not zero

Rounding never lowers the leading bit of a number, unless the number is below the smallest exponent that
leaves room for a whole mantissa. So the root of a whole number other than zero is not zero, however
large the number is, and neither is what is left of one after a division by roots that are not huge.
-/
namespace Concordance.Proofs.Decimal.Quotients

open Float.Model (Format UnpackedFloat totalExponent)
open Float.Model.UnpackedFloat
open Roots

/-! ## Sizes -/

/-- An infinity, or a number with all bits of its mantissa that has its leading bit at a place or above
it. -/
inductive AtLeast (k : ℤ) : UnpackedFloat → Prop
  | infinity : AtLeast k (.infinity .positive)
  | finite (m : ℕ) (e : ℤ) (hm : 0 < m) : m.log2 = 52 → k ≤ totalExponent m e →
      AtLeast k (.finite .positive m e hm)

theorem AtLeast.beq_zero {k : ℤ} {u : UnpackedFloat} (h : AtLeast k u) (sign : Sign) :
    u.beq (.zero sign) = false := by
  cases h <;> rfl

/-! ## Rounding -/

theorem mantissa_le_roundedMantissa (x : ExtendedMantissa) : x.mantissa ≤ x.roundedMantissa := by
  obtain ⟨m, _ | _, _ | _⟩ := x <;>
    simp only [ExtendedMantissa.roundedMantissa, ExtendedMantissa.accuracy, Accuracy.roundToNearestEven] <;>
    omega

/-- A shift leaves the leading bit in its place. -/
theorem log2_shift (accuracy : Accuracy) {m : ℕ} {e : ℤ} (hm : 52 ≤ m.log2)
    (h : -1021 ≤ totalExponent m e) :
    (shiftToTargetExponent Format.binary64 m e accuracy).1.mantissa.log2 = 52 ∧
      53 + (shiftToTargetExponent Format.binary64 m e accuracy).2 = totalExponent m e := by
  simp only [shiftToTargetExponent, shiftToExponent, targetExponent_eq, totalExponent,
    mantissa_shiftRight, mantissa_ofMantissaAndAccuracy] at h ⊢
  have hs : (max ((m.log2 : ℤ) + 1 + e - 53) (-1074) - e).toNat = m.log2 - 52 := by omega
  rw [hs, Nat.log2_eq_log_two, Nat.log_div_base_pow, ← Nat.log2_eq_log_two]
  omega

theorem atLeast_roundWithAccuracy {m : ℕ} {e k : ℤ} (accuracy : Accuracy) (hk : -1021 ≤ k)
    (hm : 52 ≤ m.log2) (h : k ≤ totalExponent m e) :
    AtLeast k (roundWithAccuracy Format.binary64 .positive m e accuracy) := by
  obtain ⟨hlog, hexp⟩ := log2_shift accuracy hm (hk.trans h)
  have hrounded : 52 ≤ (shiftToTargetExponent Format.binary64 m e accuracy).1.roundedMantissa.log2 := by
    rw [← hlog, Nat.log2_eq_log_two, Nat.log2_eq_log_two]
    exact Nat.log_mono_right (mantissa_le_roundedMantissa _)
  -- rounding up may carry into one more bit, which the second shift takes back
  have hplace : k ≤ totalExponent (shiftToTargetExponent Format.binary64 m e accuracy).1.roundedMantissa
      (shiftToTargetExponent Format.binary64 m e accuracy).2 := by
    rw [totalExponent]
    omega
  obtain ⟨hlog', hexp'⟩ := log2_shift .exact hrounded (hk.trans hplace)
  simp only [roundWithAccuracy]
  split_ifs with hzero
  · rw [hzero, Nat.log2_zero] at hlog'
    omega
  · refine .finite _ _ _ hlog' ?_
    rw [totalExponent, hlog']
    omega

theorem log2_shiftLeft {n : ℕ} (hn : 0 < n) (s : ℕ) : (n <<< s).log2 = n.log2 + s := by
  rw [Nat.shiftLeft_eq, Nat.log2_eq_iff (Nat.mul_pos hn (Nat.two_pow_pos s)).ne']
  constructor
  · rw [Nat.pow_add]
    exact Nat.mul_le_mul_right _ (Nat.log2_self_le hn.ne')
  · rw [Nat.add_right_comm, Nat.pow_add]
    exact Nat.mul_lt_mul_of_pos_right Nat.lt_log2_self (Nat.two_pow_pos s)

/-- A number of few bits is given all bits of a mantissa first. -/
theorem atLeast_round {m : ℕ} {e k : ℤ} (hk : -1021 ≤ k) (hm : 0 < m) (h : k ≤ totalExponent m e) :
    AtLeast k (UnpackedFloat.round Format.binary64 .positive m e) := by
  simp only [UnpackedFloat.round, decreaseExponent, targetExponent_eq]
  rw [totalExponent] at h ⊢
  generalize hs : (e - max ((m.log2 : ℤ) + 1 + e - 53) (-1074)).toNat = s
  have hlog := log2_shiftLeft hm s
  refine atLeast_roundWithAccuracy _ hk (by omega) ?_
  rw [totalExponent]
  omega

/-! ## Packing and unpacking -/

/-- With all bits of its mantissa, a number that is not above the largest double comes back. -/
theorem unpack_pack_normal {m : ℕ} {e : ℤ} (hm : 0 < m) (hlog : m.log2 = 52) (hlow : -1074 ≤ e)
    (hhigh : e ≤ 971) :
    unpack Format.binary64 (pack Format.binary64 (.finite .positive m e hm)) = .finite .positive m e hm := by
  obtain ⟨hge, hlt⟩ := (Nat.log2_eq_iff hm.ne').mp hlog
  have hexp : (BitVec.ofNat 11 (e + 1075).toNat).toNat = (e + 1075).toNat := by
    rw [BitVec.toNat_ofNat]
    omega
  have hmantissa : (1#1 ++ BitVec.ofNat 52 m).toNat = m := by
    rw [toNat_leading, BitVec.toNat_ofNat]
    omega
  simp only [pack, biasedExponent_eq]
  rw [if_neg (by simp; omega), if_pos (by rw [hlog]; rfl), unpack]
  simp only [unpackSign_packComponents, unpackExponent_packComponents, unpackMantissa_packComponents,
    Sign.ofBitVec_toBitVec, ← BitVec.toNat_inj, hexp]
  rw [if_neg (by simp; omega), if_neg (by simp; omega), UnpackedFloat.finite.injEq]
  refine ⟨rfl, hmantissa, ?_⟩
  simp only [Format.exponentBias]
  omega

/-- What is packed comes back, or is an infinity if it is above the largest double. -/
theorem atLeast_unpack_pack {k : ℤ} (hk : -1021 ≤ k) {u : UnpackedFloat} (h : AtLeast k u) :
    AtLeast k (unpack Format.binary64 (pack Format.binary64 u)) := by
  have hinfinity : AtLeast k (unpack Format.binary64 (packedInfinity Format.binary64 .positive)) :=
    .infinity
  cases h with
  | infinity => exact hinfinity
  | finite m e hm hlog he =>
    have hplace := he
    rw [totalExponent, hlog] at hplace
    rcases le_or_gt e 971 with hhigh | hhigh
    · rw [unpack_pack_normal hm hlog (by omega) hhigh]
      exact .finite m e hm hlog he
    · simp only [pack, biasedExponent_eq]
      rwa [if_pos (by simp; omega)]

/-! ## Arithmetic -/

theorem atLeast_sqrt {u : UnpackedFloat} (h : AtLeast 1 u) :
    AtLeast 1 (UnpackedFloat.sqrt Format.binary64 u) := by
  cases h with
  | infinity => exact .infinity
  | finite m e hm hlog he =>
    rw [totalExponent, hlog] at he
    suffices hcore : 52 ≤ (sqrtCore Format.binary64 m e).1.log2 ∧
        1 ≤ totalExponent (sqrtCore Format.binary64 m e).1 (sqrtCore Format.binary64 m e).2.1 from
      atLeast_roundWithAccuracy _ (by norm_num) hcore.1 hcore.2
    -- the number is shifted to at least 105 bits, of which the root has half
    have htarget : min (e.ediv 2) (Format.binary64.targetExponent ((totalExponent m e + 1).ediv 2)) =
        e / 2 - 26 := by
      rw [targetExponent_eq, totalExponent, hlog]
      change min (e / 2) (max ((((52 : ℕ) : ℤ) + 1 + e + 1) / 2 - 53) (-1074)) = e / 2 - 26
      omega
    simp only [sqrtCore, htarget]
    simp only [totalExponent]
    generalize hs : (e - 2 * (e / 2 - 26)).toNat = s
    have hroot : 2 ^ 52 ≤ (m <<< s).sqrt := by
      rw [Nat.le_sqrt', Nat.shiftLeft_eq, ← Nat.pow_mul]
      calc 2 ^ (52 * 2) = 2 ^ m.log2 * 2 ^ 52 := by rw [hlog]; norm_num
        _ ≤ m * 2 ^ s := Nat.mul_le_mul (Nat.log2_self_le hm.ne') (Nat.pow_le_pow_right two_pos (by omega))
    have hlog := (Nat.le_log2 ((Nat.two_pow_pos 52).trans_le hroot).ne').mpr hroot
    omega

theorem le_log2_mul {m n : ℕ} (hm : 0 < m) (hn : 0 < n) : m.log2 + n.log2 ≤ (m * n).log2 := by
  rw [Nat.le_log2 (Nat.mul_pos hm hn).ne', Nat.pow_add]
  exact Nat.mul_le_mul (Nat.log2_self_le hm.ne') (Nat.log2_self_le hn.ne')

theorem atLeast_mul {u v : UnpackedFloat} (h : AtLeast 1 u) (h' : AtLeast 1 v) :
    AtLeast 1 (UnpackedFloat.mul Format.binary64 u v) := by
  cases h with
  | infinity => cases h' <;> exact .infinity
  | finite m e hm hlog he =>
    cases h' with
    | infinity => exact .infinity
    | finite m' e' hm' hlog' he' =>
      have hproduct := le_log2_mul hm hm'
      rw [totalExponent] at he he'
      refine atLeast_roundWithAccuracy _ (by norm_num) (by omega) ?_
      rw [totalExponent]
      omega

/-- A quotient loses one place more than the divisor has. -/
theorem le_log2_div {m n : ℕ} (hn : 0 < n) (h : n.log2 < m.log2) :
    m.log2 - n.log2 - 1 ≤ (m / n).log2 := by
  have hm : m ≠ 0 := by
    rintro rfl
    exact absurd h (Nat.not_lt_zero _)
  have hle : 2 ^ (m.log2 - n.log2 - 1) ≤ m / n := by
    rw [Nat.le_div_iff_mul_le hn]
    calc 2 ^ (m.log2 - n.log2 - 1) * n ≤ 2 ^ (m.log2 - n.log2 - 1) * 2 ^ (n.log2 + 1) :=
          Nat.mul_le_mul_left _ Nat.lt_log2_self.le
      _ = 2 ^ m.log2 := by rw [← Nat.pow_add]; congr 1; omega
      _ ≤ m := Nat.log2_self_le hm
  exact (Nat.le_log2 ((Nat.two_pow_pos _).trans_le hle).ne').mpr hle

/-- A quotient is no smaller than its operands allow, and has all bits of a mantissa, or fewer if it is
near the smallest double. -/
theorem le_divCore {k k' : ℤ} (hk : -1073 ≤ k - k') {m n : ℕ} {e f : ℤ} (hm : 0 < m) (hn : 0 < n)
    (he : k ≤ totalExponent m e) (hf : totalExponent n f ≤ k') :
    0 < (divCore Format.binary64 m e n f).1 ∧
      k - k' ≤ totalExponent (divCore Format.binary64 m e n f).1 (divCore Format.binary64 m e n f).2.1 ∧
      (-1021 ≤ k - k' → 52 ≤ (divCore Format.binary64 m e n f).1.log2) := by
  -- the dividend is shifted until the quotient has enough bits
  simp only [divCore, targetExponent_eq, totalExponent] at he hf ⊢
  generalize htarget : min (e - f) (max ((m.log2 : ℤ) + 1 + e - (n.log2 + 1 + f) - 53) (-1074)) = t
  have hshift := log2_shiftLeft hm (e - f - t).toNat
  have hlt : n.log2 < (m <<< (e - f - t).toNat).log2 := by omega
  have hne : m <<< (e - f - t).toNat ≠ 0 := by
    intro hzero
    rw [hzero, Nat.log2_zero] at hlt
    exact Nat.not_lt_zero _ hlt
  have hle : n ≤ m <<< (e - f - t).toNat :=
    ((Nat.log2_lt hn.ne').mp hlt).le.trans (Nat.log2_self_le hne)
  have hquotient := le_log2_div hn hlt
  exact ⟨Nat.div_pos hle hn, by omega, by omega⟩

theorem atLeast_ofUInt64 {n : UInt64} (hn : 0 < n.toNat) :
    AtLeast 1 (UnpackedFloat.ofUInt64 Format.binary64 n) := by
  rw [ofUInt64_eq, if_neg hn.ne']
  refine atLeast_round (by norm_num) hn ?_
  rw [totalExponent]
  omega

theorem atLeast_ofScientific {n : ℕ} (hn : 0 < n) :
    AtLeast 1 (UnpackedFloat.ofScientific Format.binary64 n 0) := by
  rw [UnpackedFloat.ofScientific]
  split_ifs with hzero hhigh hlow hscaled
  · omega
  · exact absurd hhigh (by norm_num)
  · omega
  · have hlog := log2_shiftLeft hn Format.binary64.mantissaBits
    simp only [UnpackedFloat.mul, Int.toNat_zero, Nat.pow_zero, Nat.mul_one]
    simp only [Format.mantissaBits] at hlog ⊢
    refine atLeast_roundWithAccuracy _ (by norm_num) (by omega) ?_
    rw [totalExponent]
    omega
  · exact absurd le_rfl hscaled

/-- The double of a whole number other than zero is at least one. -/
theorem atLeast_ofNat {n : ℕ} (hn : 0 < n) : AtLeast 1 (Float.ofNat n).toModel.unpack := by
  have hone : AtLeast 1 one :=
    .finite _ _ _ Nat.log2_two_pow (by rw [totalExponent, Nat.log2_two_pow]; norm_num)
  rw [unpack_ofNat]
  split_ifs with hsmall
  · have hfactor := atLeast_unpack_pack (by norm_num) (atLeast_ofUInt64 ((toNat_toUInt64 hsmall).symm ▸ hn))
    exact atLeast_unpack_pack (by norm_num) (atLeast_mul hfactor hone)
  · exact atLeast_unpack_pack (by norm_num) (atLeast_ofScientific hn)

/-- No whole number but zero has a root that equals zero. -/
theorem sqrt_ofNat_ne_zero {n : ℕ} (hn : 0 < n) : ((Float.ofNat n).sqrt == 0.0) = false :=
  (atLeast_unpack_pack (by norm_num) (atLeast_sqrt (atLeast_ofNat hn))).beq_zero .positive

end Concordance.Proofs.Decimal.Quotients
