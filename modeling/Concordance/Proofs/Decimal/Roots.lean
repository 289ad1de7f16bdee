import Mathlib

/-!
# Square roots of whole numbers are finite

No rounding more than doubles what it rounds, up to the smallest exponent. So the double of a whole
number, and all the more its root, stays far below the largest double unless the number itself is huge.

The lemmas about the bits of a double come with the whole of Mathlib only, so no part of it is singled out.
-/
namespace Concordance.Proofs.Decimal.Roots

open Float.Model (Format UnpackedFloat totalExponent)
open Float.Model.UnpackedFloat

/-! ## Sizes -/

/-- A number that is not negative and has its leading bit below a place. -/
inductive Bounded (k : ℤ) : UnpackedFloat → Prop
  | zero : Bounded k (.zero .positive)
  | finite (m : ℕ) (e : ℤ) (hm : 0 < m) : totalExponent m e ≤ k → Bounded k (.finite .positive m e hm)

theorem Bounded.isFinite {k : ℤ} {u : UnpackedFloat} (h : Bounded k u) : u.isFinite = true := by
  cases h <;> rfl

theorem Bounded.mono {k k' : ℤ} (hk : k ≤ k') {u : UnpackedFloat} (h : Bounded k u) : Bounded k' u := by
  cases h with
  | zero => exact .zero
  | finite m e hm ht => exact .finite m e hm (ht.trans hk)

theorem log2_le_of_lt_pow {m j : ℕ} (h : m < 2 ^ (j + 1)) : m.log2 ≤ j := by
  rcases Nat.eq_zero_or_pos m with rfl | hm
  · simp
  · exact Nat.lt_succ_iff.mp ((Nat.log2_lt hm.ne').mpr h)

theorem targetExponent_eq (t : ℤ) : Format.binary64.targetExponent t = max (t - 53) (-1074) := by
  simp [Format.targetExponent, Format.mantissaBits, Format.minExponent]

/-! ## Rounding -/

theorem mantissa_shiftRight (x : ExtendedMantissa) (s : ℕ) : (x >>> s).mantissa = x.mantissa / 2 ^ s := by
  induction s with
  | zero => simp [HShiftRight.hShiftRight, Nat.repeat]
  | succ s ih =>
    have hstep : (x >>> (s + 1)).mantissa = (x >>> s).mantissa / 2 := rfl
    rw [hstep, ih, Nat.div_div_eq_div_mul, Nat.pow_succ]

theorem mantissa_ofMantissaAndAccuracy (m : ℕ) (accuracy : Accuracy) :
    (ExtendedMantissa.ofMantissaAndAccuracy m accuracy).mantissa = m := by
  rcases accuracy with _ | _ | _ | _ <;> rfl

theorem roundedMantissa_le (x : ExtendedMantissa) : x.roundedMantissa ≤ x.mantissa + 1 := by
  obtain ⟨m, _ | _, _ | _⟩ := x <;>
    simp only [ExtendedMantissa.roundedMantissa, ExtendedMantissa.accuracy, Accuracy.roundToNearestEven] <;>
    omega

/-- One shift, even when the mantissa is rounded up after it. -/
theorem totalExponent_shift_le (accuracy : Accuracy) {m r : ℕ} {e k : ℤ} (h : totalExponent m e ≤ k)
    (hr : r ≤ (shiftToTargetExponent Format.binary64 m e accuracy).1.mantissa + 1) :
    totalExponent r (shiftToTargetExponent Format.binary64 m e accuracy).2 ≤ max (k + 1) (-1073) := by
  simp only [shiftToTargetExponent, shiftToExponent, targetExponent_eq, totalExponent,
    mantissa_shiftRight, mantissa_ofMantissaAndAccuracy] at h hr ⊢
  generalize hs : (max ((m.log2 : ℤ) + 1 + e - 53) (-1074) - e).toNat = s at hr ⊢
  have hm : m < 2 ^ (m.log2 + 1) := Nat.lt_log2_self
  have hlog : r.log2 ≤ m.log2 + 1 - s := by
    refine log2_le_of_lt_pow ((hr.trans (Nat.succ_le_of_lt ?_)).trans_lt
      (Nat.pow_lt_pow_succ Nat.one_lt_two))
    rw [Nat.div_lt_iff_lt_mul (Nat.two_pow_pos s), ← Nat.pow_add]
    exact hm.trans_le (Nat.pow_le_pow_right Nat.two_pos (by omega))
  omega

theorem bounded_roundWithAccuracy {m : ℕ} {e k : ℤ} (accuracy : Accuracy) (h : totalExponent m e ≤ k)
    (hk : 0 ≤ k) : Bounded (k + 2) (roundWithAccuracy Format.binary64 .positive m e accuracy) := by
  have hfirst := totalExponent_shift_le accuracy h
    (roundedMantissa_le (shiftToTargetExponent Format.binary64 m e accuracy).1)
  have hsecond := totalExponent_shift_le .exact hfirst (Nat.le_succ _)
  simp only [roundWithAccuracy]
  split_ifs
  · exact .zero
  · exact .finite _ _ _ (hsecond.trans (by omega))

/-! ## Packing and unpacking -/

/-- The leading bit of a mantissa is not kept. -/
theorem toNat_leading (mantissa : BitVec 52) : (1#1 ++ mantissa).toNat = 2 ^ 52 + mantissa.toNat := by
  rw [BitVec.toNat_append, ← Nat.shiftLeft_add_eq_or_of_lt mantissa.isLt]
  rfl

theorem biasedExponent_eq (e : ℤ) :
    (e + (Format.binary64.exponentBias : ℤ) + ((52 : ℕ) : ℤ)).toNat = (e + 1075).toNat := by
  simp only [Format.exponentBias]
  omega

theorem bounded_unpack_components {k : ℤ} (hk : 0 ≤ k) {b : ℕ} (hb : b < 2047)
    (hle : b ≠ 0 → (b : ℤ) - 1022 ≤ k) (mantissa : BitVec 52) :
    Bounded k (unpack Format.binary64
      (packComponents Format.binary64 .positive (BitVec.ofNat 11 b) mantissa)) := by
  have hexp : (BitVec.ofNat 11 b).toNat = b := by
    rw [BitVec.toNat_ofNat]
    omega
  have hmantissa := mantissa.isLt
  rw [unpack]
  simp only [unpackSign_packComponents, unpackExponent_packComponents, unpackMantissa_packComponents,
    Sign.ofBitVec_toBitVec, ← BitVec.toNat_inj, hexp]
  rw [if_neg (by simp; omega)]
  split_ifs with hzero hm
  · exact .zero
  · refine .finite _ _ _ ?_
    have hlog := log2_le_of_lt_pow (hmantissa.trans (Nat.pow_lt_pow_succ Nat.one_lt_two))
    simp [totalExponent, Format.exponentBias] at hzero ⊢
    omega
  · refine .finite _ _ _ ?_
    have hlog := log2_le_of_lt_pow (j := 52) (1#1 ++ mantissa).isLt
    have hle' := hle (by simpa using hzero)
    simp only [totalExponent, Format.exponentBias]
    omega

/-- What is packed comes back, if it is not above the largest double; what is left of numbers below the
smallest one has no large exponent. -/
theorem bounded_unpack_pack {k : ℤ} (hk : 0 ≤ k) (hle : k ≤ 971) {u : UnpackedFloat} (h : Bounded k u) :
    Bounded k (unpack Format.binary64 (pack Format.binary64 u)) := by
  cases h with
  | zero =>
    rw [pack, unpack_packedZero]
    exact .zero
  | finite m e hm ht =>
    rw [totalExponent] at ht
    simp only [pack, biasedExponent_eq]
    rw [if_neg (by omega)]
    split_ifs with hbits
    · refine bounded_unpack_components hk (by omega) ?_ _
      simp only [Format.mantissaBits] at hbits
      omega
    · exact bounded_unpack_components hk (by norm_num) (fun hne => absurd rfl hne) _

/-! ## Roots -/

/-- Half of the places are left of a number whose root is taken. -/
theorem totalExponent_sqrtCore_le {m : ℕ} {e k : ℤ} (h : totalExponent m e ≤ k) (hk : 1 ≤ k) :
    totalExponent (sqrtCore Format.binary64 m e).1 (sqrtCore Format.binary64 m e).2.1 ≤ k := by
  simp only [sqrtCore, totalExponent] at h ⊢
  generalize htarget : min (e.ediv 2) (Format.binary64.targetExponent _) = t
  have ht : t ≤ e / 2 := htarget ▸ min_le_left _ _
  generalize hs : (e - 2 * t).toNat = s
  have hroot : (m <<< s).sqrt.log2 * 2 < m.log2 + 1 + s := by
    rcases Nat.eq_zero_or_pos (m <<< s).sqrt with hzero | hpos
    · rw [hzero, Nat.log2_zero]
      omega
    · refine (Nat.pow_lt_pow_iff_right Nat.one_lt_two).mp ?_
      calc 2 ^ ((m <<< s).sqrt.log2 * 2) = (2 ^ (m <<< s).sqrt.log2) ^ 2 := Nat.pow_mul _ _ _
        _ ≤ (m <<< s).sqrt ^ 2 := Nat.pow_le_pow_left (Nat.log2_self_le hpos.ne') 2
        _ ≤ m <<< s := Nat.sqrt_le' _
        _ = m * 2 ^ s := Nat.shiftLeft_eq m s
        _ < 2 ^ (m.log2 + 1) * 2 ^ s := Nat.mul_lt_mul_of_pos_right Nat.lt_log2_self (Nat.two_pow_pos s)
        _ = 2 ^ (m.log2 + 1 + s) := (Nat.pow_add _ _ _).symm
  omega

theorem bounded_sqrt {k : ℤ} (hk : 1 ≤ k) {u : UnpackedFloat} (h : Bounded k u) :
    Bounded (k + 2) (UnpackedFloat.sqrt Format.binary64 u) := by
  cases h with
  | zero => exact .zero
  | finite m e hm ht => exact bounded_roundWithAccuracy _ (totalExponent_sqrtCore_le ht hk) (by omega)

/-! ## Whole numbers -/

theorem log2_mul_le (m n : ℕ) : (m * n).log2 ≤ m.log2 + n.log2 + 1 := by
  refine log2_le_of_lt_pow ?_
  rw [show m.log2 + n.log2 + 1 + 1 = (m.log2 + 1) + (n.log2 + 1) by omega, Nat.pow_add]
  exact Nat.mul_lt_mul'' Nat.lt_log2_self Nat.lt_log2_self

theorem bounded_mul {k k' : ℤ} (hk : 0 ≤ k) (hk' : 0 ≤ k') {u v : UnpackedFloat} (h : Bounded k u)
    (h' : Bounded k' v) : Bounded (k + k' + 2) (UnpackedFloat.mul Format.binary64 u v) := by
  cases h with
  | zero => cases h' <;> exact .zero
  | finite m e hm ht =>
    cases h' with
    | zero => exact .zero
    | finite m' e' hm' ht' =>
      refine bounded_roundWithAccuracy _ ?_ (by omega)
      have hlog := log2_mul_le m m'
      simp only [totalExponent] at ht ht' ⊢
      omega

theorem log2_shiftLeft_le (m s : ℕ) : (m <<< s).log2 ≤ m.log2 + s := by
  refine log2_le_of_lt_pow ?_
  rw [Nat.shiftLeft_eq, show m.log2 + s + 1 = (m.log2 + 1) + s by omega, Nat.pow_add]
  exact Nat.mul_lt_mul_of_pos_right Nat.lt_log2_self (Nat.two_pow_pos s)

theorem ofUInt64_eq (n : UInt64) : UnpackedFloat.ofUInt64 Format.binary64 n =
    if n.toNat = 0 then .zero .positive else UnpackedFloat.round Format.binary64 .positive n.toNat 0 := by
  simp only [UnpackedFloat.ofUInt64, UnpackedFloat.ofNat, UnpackedFloat.ofInt, UnpackedFloat.normalize]
  split_ifs with hn
  · rw [hn]
    rfl
  · rw [Int.compare_eq_gt.mpr (by omega), Int.toNat_natCast]

theorem bounded_ofUInt64 {n : UInt64} {k : ℕ} (hn : n.toNat < 2 ^ (k + 1)) :
    Bounded (k + 3) (UnpackedFloat.ofUInt64 Format.binary64 n) := by
  rw [ofUInt64_eq]
  split_ifs
  · exact .zero
  · refine Bounded.mono (le_of_eq (by ring)) (bounded_roundWithAccuracy (k := k + 1) _ ?_ (by omega))
    have hlog := log2_le_of_lt_pow hn
    have hshift := log2_shiftLeft_le n.toNat
    simp only [totalExponent]
    generalize (0 - Format.binary64.targetExponent _).toNat = s
    have := hshift s
    omega

theorem bounded_ofScientific {n k : ℕ} (hn : n < 2 ^ (k + 1)) :
    Bounded (k + 4) (UnpackedFloat.ofScientific Format.binary64 n 0) := by
  rw [UnpackedFloat.ofScientific]
  split_ifs with hzero hhigh hlow hscaled
  · exact .zero
  · exact absurd hhigh (by norm_num)
  · exact .zero
  · refine Bounded.mono (le_of_eq (by ring) : ((k : ℤ) + 1) + 1 + 2 ≤ k + 4)
      (bounded_mul (by omega) (by norm_num) (.finite _ _ _ ?_) (.finite _ _ _ ?_))
    · have hlog := log2_le_of_lt_pow hn
      have hshift := log2_shiftLeft_le n Format.binary64.mantissaBits
      simp only [totalExponent]
      omega
    · simp [totalExponent, Nat.log2_def]
  · exact absurd le_rfl hscaled

def one : UnpackedFloat :=
  .finite .positive (2 ^ 52) (-52) (Nat.two_pow_pos 52)

/-- Small numbers are multiplied by one, and the others scaled by a power of ten, which is one. -/
theorem unpack_ofNat (n : ℕ) : (Float.ofNat n).toModel.unpack = unpack Format.binary64 (pack Format.binary64
    (if n < 2 ^ 53 then UnpackedFloat.mul Format.binary64
      (unpack Format.binary64 (pack Format.binary64 (UnpackedFloat.ofUInt64 Format.binary64 n.toUInt64))) one
    else UnpackedFloat.ofScientific Format.binary64 n 0)) := by
  change (Float.ofScientific n false 0).toModel.unpack = _
  rw [Float.ofScientific]
  by_cases hlt : n < 2 ^ 53
  · have hone : Float.exactlyRepresentablePowersOfTen[0].toModel.unpack = one := rfl
    rw [dif_pos ⟨hlt, Nat.zero_le _⟩, if_neg Bool.false_ne_true, if_pos hlt, ← hone]
    rfl
  · rw [dif_neg fun h => hlt h.1, if_neg hlt]
    rfl

theorem toNat_toUInt64 {n : ℕ} (h : n < 2 ^ 53) : n.toUInt64.toNat = n := by
  rw [Nat.toUInt64, UInt64.toNat_ofNat']
  omega

theorem bounded_ofNat {n k : ℕ} (hn : n < 2 ^ (k + 1)) (hk : 52 ≤ k) (hk' : k ≤ 900) :
    Bounded (k + 6) (Float.ofNat n).toModel.unpack := by
  have hone : Bounded 1 one :=
    .finite (2 ^ 52) (-52) (by decide) (by rw [totalExponent, Nat.log2_two_pow]; norm_num)
  rw [unpack_ofNat]
  split_ifs with hsmall
  · have hword : n.toUInt64.toNat < 2 ^ (52 + 1) := (toNat_toUInt64 hsmall).trans_lt hsmall
    have hfactor := bounded_unpack_pack (by norm_num) (by norm_num) (bounded_ofUInt64 hword)
    exact (bounded_unpack_pack (k := 58) (by norm_num) (by norm_num)
      (bounded_mul (by norm_num) (by norm_num) hfactor hone)).mono (by omega)
  · exact (bounded_unpack_pack (k := k + 4) (by omega) (by omega) (bounded_ofScientific hn)).mono
      (by omega)

/-- The root of a number with at most two hundred binary digits. -/
theorem bounded_sqrt_ofNat {n : ℕ} (hn : n < 2 ^ 200) :
    Bounded 207 (Float.ofNat n).sqrt.toModel.unpack :=
  bounded_unpack_pack (by norm_num) (by norm_num)
    (bounded_sqrt (by norm_num) (bounded_ofNat hn (by norm_num) (by norm_num)))

theorem isFinite_sqrt_ofNat {n : ℕ} (hn : n < 2 ^ 200) : (Float.ofNat n).sqrt.isFinite = true :=
  (bounded_sqrt_ofNat hn).isFinite

end Concordance.Proofs.Decimal.Roots
