import Concordance.Proofs.Decimal.Comparing
import Concordance.Proofs.Decimal.Quotients

/-!
# Signs of quotients

Rounding and packing keep the sign of a number even when nothing else is left of it. A quotient of a whole
number and a finite double is far above the smallest double, so it is zero only if the divisor is infinite,
and then it has the divisor's sign.
-/
namespace Concordance.Proofs.Decimal.Signs

open Float.Model (Format UnpackedFloat totalExponent)
open Float.Model.UnpackedFloat
open Concordance.Decimal Nearest Roots Quotients Comparing

inductive Signed (s : Sign) : UnpackedFloat → Prop
  | infinity : Signed s (.infinity s)
  | zero : Signed s (.zero s)
  | finite (m : ℕ) (e : ℤ) (hm : 0 < m) : Signed s (.finite s m e hm)

theorem Signed.not_isNaN {s : Sign} {u : UnpackedFloat} (h : Signed s u) : u.isNaN = false := by
  cases h <;> rfl

theorem exists_signed {u : UnpackedFloat} (h : u.isNaN = false) : ∃ s : Sign, Signed s u := by
  cases u with
  | infinity s => exact ⟨s, .infinity⟩
  | notANumber => cases h
  | zero s => exact ⟨s, .zero⟩
  | finite s m e hm => exact ⟨s, .finite m e hm⟩

/-! ## Rounding -/

theorem signed_roundWithAccuracy (s : Sign) (m : ℕ) (e : ℤ) (accuracy : Accuracy) :
    Signed s (roundWithAccuracy Format.binary64 s m e accuracy) := by
  simp only [roundWithAccuracy]
  split_ifs
  · exact .zero
  · exact .finite _ _ _

/-- A shift leaves something of a number, unless the number is below the smallest double. -/
theorem shift_pos (accuracy : Accuracy) {m : ℕ} {e : ℤ} (hm : 0 < m) (h : -1073 ≤ totalExponent m e) :
    0 < (shiftToTargetExponent Format.binary64 m e accuracy).1.mantissa ∧
      (shiftToTargetExponent Format.binary64 m e accuracy).1.mantissa.log2 ≤ 52 ∧
      -1074 ≤ (shiftToTargetExponent Format.binary64 m e accuracy).2 := by
  simp only [shiftToTargetExponent, shiftToExponent, targetExponent_eq, totalExponent,
    mantissa_shiftRight, mantissa_ofMantissaAndAccuracy] at h ⊢
  generalize hs : (max ((m.log2 : ℤ) + 1 + e - 53) (-1074) - e).toNat = s
  have hle : 2 ^ s ≤ m := (Nat.pow_le_pow_right Nat.two_pos (by omega)).trans (Nat.log2_self_le hm.ne')
  refine ⟨Nat.div_pos hle (Nat.two_pow_pos s), ?_, by omega⟩
  rw [Nat.log2_eq_log_two, Nat.log_div_base_pow, ← Nat.log2_eq_log_two]
  omega

theorem exists_roundWithAccuracy (s : Sign) (accuracy : Accuracy) {m : ℕ} {e : ℤ} (hm : 0 < m)
    (h : -1073 ≤ totalExponent m e) : ∃ (n : ℕ) (f : ℤ) (hn : 0 < n),
      roundWithAccuracy Format.binary64 s m e accuracy = .finite s n f hn ∧ n.log2 ≤ 52 ∧ -1074 ≤ f := by
  obtain ⟨hpos, -, hexp⟩ := shift_pos accuracy hm h
  have hrounded : 0 < (shiftToTargetExponent Format.binary64 m e accuracy).1.roundedMantissa :=
    hpos.trans_le (mantissa_le_roundedMantissa _)
  obtain ⟨hpos', hlog', hexp'⟩ := shift_pos .exact hrounded
    (e := (shiftToTargetExponent Format.binary64 m e accuracy).2) (by rw [totalExponent]; omega)
  simp only [roundWithAccuracy]
  rw [dif_neg hpos'.ne']
  exact ⟨_, _, _, rfl, hlog', hexp'⟩

/-! ## Packing and unpacking -/

theorem signed_components (s : Sign) {exponent : BitVec 11} (h : exponent ≠ -1#11) (mantissa : BitVec 52) :
    Signed s (unpack Format.binary64 (packComponents Format.binary64 s exponent mantissa)) := by
  rw [unpack]
  simp only [unpackSign_packComponents, unpackExponent_packComponents, unpackMantissa_packComponents,
    Sign.ofBitVec_toBitVec]
  rw [if_neg h]
  split_ifs
  · exact .zero
  · exact .finite _ _ _
  · exact .finite _ _ _

theorem unpack_packedInfinity (s : Sign) :
    unpack Format.binary64 (packedInfinity Format.binary64 s) = .infinity s := by
  cases s <;> rfl

/-- The sign of a number is packed with it, whatever is left of the number. -/
theorem signed_unpack_pack {s : Sign} {u : UnpackedFloat} (h : Signed s u) :
    Signed s (unpack Format.binary64 (pack Format.binary64 u)) := by
  cases h with
  | infinity =>
    rw [pack, unpack_packedInfinity]
    exact .infinity
  | zero =>
    rw [pack, unpack_packedZero]
    exact .zero
  | finite m e hm =>
    simp only [pack, biasedExponent_eq]
    split_ifs with hlarge hbits
    · rw [unpack_packedInfinity]
      exact .infinity
    · refine signed_components s (fun h => ?_) _
      have hexp := congrArg BitVec.toNat h
      simp at hlarge hexp
      omega
    · exact signed_components s (by decide) _

/-- A number with its last place where doubles have theirs is not packed as a zero. -/
theorem unpack_pack_ne_zero {s : Sign} {n : ℕ} {f : ℤ} (hn : 0 < n) (hlog : n.log2 ≤ 52) (hf : -1074 ≤ f)
    (t : Sign) : unpack Format.binary64 (pack Format.binary64 (.finite s n f hn)) ≠ .zero t := by
  intro h
  have hpack := (unpack_eq_zero_iff_of_valid valid_pack).mp h
  have hexp := congrArg (@unpackExponent Format.binary64) hpack
  have hmantissa := congrArg (@unpackMantissa Format.binary64) hpack
  simp only [pack, biasedExponent_eq, packedZero, unpackExponent_packComponents,
    unpackMantissa_packComponents] at hexp hmantissa
  split_ifs at hexp hmantissa with hlarge hbits
  · rw [packedInfinity, unpackExponent_packComponents] at hexp
    exact absurd hexp (by decide)
  · rw [unpackExponent_packComponents] at hexp
    have hexp' := congrArg BitVec.toNat hexp
    simp at hlarge hexp'
    omega
  · rw [unpackMantissa_packComponents] at hmantissa
    have hmantissa' := congrArg BitVec.toNat hmantissa
    have hlt : n < 2 ^ 52 := (Nat.log2_lt hn.ne').mp (hlog.lt_of_ne fun h => hbits (by rw [h]; rfl))
    rw [BitVec.toNat_ofNat] at hmantissa'
    exact hn.ne' ((Nat.mod_eq_of_lt hlt).symm.trans hmantissa')

/-! ## Arithmetic -/

theorem signed_mul {s : Sign} {u : UnpackedFloat} (h : Signed s u) {m : ℕ} (e : ℤ) (hm : 0 < m) :
    Signed s (UnpackedFloat.mul Format.binary64 u (.finite .positive m e hm)) := by
  have hs : s * .positive = s := by cases s <;> rfl
  cases h with
  | infinity =>
    rw [UnpackedFloat.mul, hs]
    exact .infinity
  | zero =>
    rw [UnpackedFloat.mul, hs]
    exact .zero
  | finite n f hn =>
    rw [UnpackedFloat.mul, hs]
    exact signed_roundWithAccuracy _ _ _ _

/-- A number that is at least one, divided by any double, has the divisor's sign; only an infinity leaves
nothing of it. -/
theorem div_signed {s : Sign} {v : UnpackedFloat} (h : Signed s v)
    (hv : ∀ n f hn, v = .finite s n f hn → totalExponent n f ≤ 1024) {m : ℕ} {e : ℤ} (hm : 0 < m)
    (he : 1 ≤ totalExponent m e) :
    let q := unpack Format.binary64 (pack Format.binary64
      (UnpackedFloat.div Format.binary64 (.finite .positive m e hm) v))
    Signed s q ∧ ∀ t, q = .zero t ↔ v = .infinity s ∧ t = s := by
  have hs : Sign.positive / s = s := by cases s <;> rfl
  intro q
  cases h with
  | infinity =>
    have hq : q = .zero s := by
      simp only [q, UnpackedFloat.div, hs, pack, unpack_packedZero]
    rw [hq]
    exact ⟨.zero, fun t => ⟨fun h => by cases h; exact ⟨rfl, rfl⟩, fun h => by rw [h.2]⟩⟩
  | zero =>
    have hq : q = .infinity s := by
      simp only [q, UnpackedFloat.div, hs, pack, unpack_packedInfinity]
    rw [hq]
    exact ⟨.infinity, fun t => ⟨nofun, fun h => nomatch h.1⟩⟩
  | finite n f hn =>
    obtain ⟨hpos, hplace, -⟩ := le_divCore (by norm_num) hm hn he (hv n f hn rfl)
    obtain ⟨n', f', hn', hround, hlog, hexp⟩ := exists_roundWithAccuracy s
      (divCore Format.binary64 m e n f).2.2 hpos ((by norm_num : (-1073 : ℤ) ≤ 1 - 1024).trans hplace)
    have hq : q = unpack Format.binary64 (pack Format.binary64 (.finite s n' f' hn')) := by
      rw [← hround]
      simp only [q, UnpackedFloat.div, hs]
    rw [hq]
    exact ⟨signed_unpack_pack (.finite n' f' hn'),
      fun t => ⟨fun h => absurd h (unpack_pack_ne_zero hn' hlog hexp t), fun h => nomatch h.1⟩⟩

/-! ## Doubles -/

/-- A finite double is below the next power of two after the largest. -/
theorem totalExponent_le {s t : Sign} {size m : ℕ} {e : ℤ} {hm : 0 < m}
    (h : Unpacks s size (.finite t m e hm)) : totalExponent m e ≤ 1024 := by
  cases h with
  | finite _ hpos hlt hbits =>
    subst hbits
    obtain ⟨-, hmantissa, -, hexp, -⟩ := regular_ofBits hpos hlt
    have hlog := log2_le_of_lt_pow (j := 52) hmantissa
    rw [totalExponent]
    omega

theorem finite_of_bounds {k : ℤ} {u : UnpackedFloat} (h : AtLeast 1 u) (h' : Bounded k u) :
    ∃ (m : ℕ) (e : ℤ) (hm : 0 < m), u = .finite .positive m e hm ∧ 1 ≤ totalExponent m e := by
  cases h with
  | infinity => cases h'
  | finite m e hm _ he => exact ⟨m, e, hm, rfl, he⟩

/-- A number that does not equal zero is below zero if its sign is negative. -/
theorem lt_zero_iff {x : Float} {s : Sign} (h : Signed s x.toModel.unpack) (hzero : (x == 0.0) = false) :
    x < 0.0 ↔ s = .negative := by
  have hbeq : x.toModel.unpack.beq (.zero .positive) = false := hzero
  have hlt : x < 0.0 ↔ x.toModel.unpack.compare (.zero .positive) = some .lt := lt_iff_compare x 0.0
  rw [hlt]
  generalize x.toModel.unpack = u at h hbeq
  cases h with
  | infinity => cases s <;> simp [UnpackedFloat.compare]
  | zero => cases hbeq
  | finite m e hm => cases s <;> simp [UnpackedFloat.compare]

theorem not_lt_zero_of_atLeast {k : ℤ} {x : Float} (h : AtLeast k x.toModel.unpack) : ¬ x < 0.0 := by
  have hlt : x < 0.0 ↔ x.toModel.unpack.compare (.zero .positive) = some .lt := lt_iff_compare x 0.0
  rw [hlt]
  generalize x.toModel.unpack = u at h
  cases h with
  | infinity => nofun
  | finite => nofun

/-- A whole number divided by a number with a sign and a root: it has the sign, and is a zero only if the
divisor is too large for a double. -/
theorem quotient_eq_neg_zero_iff {hits weight : ℕ} (hhits : 0 < hits) (hhits' : hits < 2 ^ 200)
    (hweight : 0 < weight) (hweight' : weight < 2 ^ 200) {norm : Float} (hnorm : norm.isNaN = false)
    (hzero : (norm == 0.0) = false) :
    let divisor := norm * (Float.ofNat weight).sqrt
    (Float.ofNat hits / divisor).isNaN = false ∧
      (Float.ofNat hits / divisor = -0.0 ↔ norm < 0.0 ∧ divisor.isInf = true) := by
  intro divisor
  obtain ⟨s, hs⟩ := exists_signed hnorm
  obtain ⟨m, e, hm, hdividend, he⟩ := finite_of_bounds (atLeast_ofNat hhits)
    (bounded_ofNat hhits' (by norm_num) (by norm_num))
  obtain ⟨m', e', hm', hroot, -⟩ := finite_of_bounds
    (atLeast_unpack_pack (by norm_num) (atLeast_sqrt (atLeast_ofNat hweight))) (bounded_sqrt_ofNat hweight')
  have hdivisor : Signed s divisor.toModel.unpack := by
    have hproduct : divisor.toModel.unpack = unpack Format.binary64 (pack Format.binary64
        (UnpackedFloat.mul Format.binary64 norm.toModel.unpack (.finite .positive m' e' hm'))) := by
      rw [← hroot]
      rfl
    rw [hproduct]
    exact signed_unpack_pack (signed_mul hs e' hm')
  have hquotient : (Float.ofNat hits / divisor).toModel.unpack = unpack Format.binary64 (pack Format.binary64
      (UnpackedFloat.div Format.binary64 (.finite .positive m e hm) divisor.toModel.unpack)) := by
    rw [← hdividend]
    rfl
  have hbelow : ∀ n f hn, divisor.toModel.unpack = .finite s n f hn → totalExponent n f ≤ 1024 := by
    intro n f hn h
    have hu := unpacks_float divisor
    rw [h] at hu
    exact totalExponent_le hu
  obtain ⟨hsigned, hiff⟩ := div_signed hdivisor hbelow hm he
  rw [← hquotient] at hsigned hiff
  refine ⟨hsigned.not_isNaN, ?_⟩
  have hinf : divisor.isInf = true ↔ divisor.toModel.unpack = .infinity s := by
    have hmodel : divisor.isInf = divisor.toModel.unpack.isInf := rfl
    rw [hmodel]
    generalize divisor.toModel.unpack = v at hdivisor
    cases hdivisor <;> simp [UnpackedFloat.isInf]
  rw [eq_neg_zero_iff, hiff, lt_zero_iff hs hzero, hinf]
  constructor
  · rintro ⟨h, rfl⟩
    exact ⟨rfl, h⟩
  · rintro ⟨rfl, h⟩
    exact ⟨h, rfl⟩

end Concordance.Proofs.Decimal.Signs
