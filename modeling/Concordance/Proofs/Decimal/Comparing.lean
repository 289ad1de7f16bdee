import Concordance.Proofs.Decimal.Doubles
import Concordance.Proofs.Decimal.Roots
import Concordance.Search

/-!
# Places and comparisons of doubles

The bits of a double without its sign grow with its size, since the exponent stands above the fraction.
So the place of a double in the total order, which is read off its bits, agrees with the comparison of
numbers, except that comparison takes the two zeros for equal and the places do not.
-/
namespace Concordance.Proofs.Decimal.Comparing

open Concordance.Decimal Nearest Doubles Roots
open Float.Model (Format UnpackedFloat)
open Float.Model.UnpackedFloat

/-- What a double unpacks to, by its sign and its other bits. -/
inductive Unpacks (s : Sign) : ℕ → UnpackedFloat → Prop
  | zero : Unpacks s 0 (.zero s)
  | finite {size : ℕ} {m : Magnitude} (hm : 0 < m.mantissa) : 0 < size → size < infinityBits →
      Magnitude.ofBits size = m → Unpacks s size (.finite s m.mantissa m.exponent hm)
  | infinity : Unpacks s infinityBits (.infinity s)
  | notANumber {size : ℕ} : infinityBits < size → Unpacks s size .notANumber

def signOf (bits : ℕ) : Sign :=
  if bits < signBit then .positive else .negative

theorem Unpacks.of_ofBits {s : Sign} {size m : ℕ} {e : ℤ} (h : Magnitude.ofBits size = ⟨m, e⟩) (hm : 0 < m)
    (hpos : 0 < size) (hlt : size < infinityBits) : Unpacks s size (.finite s m e hm) :=
  @Unpacks.finite s size ⟨m, e⟩ hm hpos hlt h

theorem toNat_unpackMantissa (b : BitVec Format.binary64.numBits) :
    (@UnpackedFloat.unpackMantissa Format.binary64 b).toNat = b.toNat % fractionLimit := by
  simp [UnpackedFloat.unpackMantissa, fractionLimit]

theorem ofBitVec_unpackSign (b : BitVec Format.binary64.numBits) :
    Sign.ofBitVec (@UnpackedFloat.unpackSign Format.binary64 b) = signOf b.toNat := by
  have hlt : b.toNat < 2 ^ 64 := b.isLt
  have hsign : @UnpackedFloat.unpackSign Format.binary64 b = 0#1 ↔ b.toNat < signBit := by
    rw [← BitVec.toNat_inj]
    simp [UnpackedFloat.unpackSign, Nat.shiftRight_eq_div_pow, signBit]
    omega
  rw [Sign.ofBitVec, signOf]
  simp only [hsign]

/-- The parts of a bit pattern are its sign, and the exponent and fraction of its size. -/
theorem unpacks (b : BitVec Format.binary64.numBits) :
    Unpacks (signOf b.toNat) (b.toNat % signBit) (unpack Format.binary64 b) := by
  have hlt : b.toNat < 2 ^ 64 := b.isLt
  have hbias : Format.binary64.exponentBias = 1023 := rfl
  have he : (@unpackExponent Format.binary64 b).toNat = b.toNat % signBit / fractionLimit := by
    rw [toNat_unpackExponent]
    simp only [signBit, fractionLimit]
    omega
  have hm : (@unpackMantissa Format.binary64 b).toNat = b.toNat % signBit % fractionLimit := by
    rw [toNat_unpackMantissa]
    simp only [signBit, fractionLimit]
    omega
  have happend : (1#1 ++ @unpackMantissa Format.binary64 b).toNat =
      b.toNat % signBit % fractionLimit + fractionLimit := by
    exact (toNat_leading _).trans (by rw [hm, Nat.add_comm]; rfl)
  rw [unpack]
  simp only [ofBitVec_unpackSign, hbias, ← BitVec.toNat_inj, he, hm, happend]
  have hsplit := Nat.div_add_mod (b.toNat % signBit) fractionLimit
  have hlimit : infinityBits = 2047 * fractionLimit := rfl
  have htop : (-1#11).toNat = 2047 := rfl
  split_ifs with hexp hfrac hlow hfrac
  · have hsize : b.toNat % signBit = infinityBits := by
      rw [← hsplit, hexp, hfrac, htop, hlimit, Nat.mul_comm]
      rfl
    rw [hsize]
    exact .infinity
  · refine .notANumber ?_
    rw [← hsplit, hexp, htop, hlimit, Nat.mul_comm]
    exact Nat.lt_add_of_pos_right (Nat.pos_of_ne_zero hfrac)
  · have hsize : b.toNat % signBit = 0 := by
      rw [← hsplit, hlow, hfrac]
      rfl
    rw [hsize]
    exact .zero
  · have hsmall : b.toNat % signBit < fractionLimit :=
      (Nat.div_eq_zero_iff.mp hlow).resolve_left (by decide)
    refine .of_ofBits ?_ _ (Nat.pos_of_ne_zero fun h => hfrac (by rw [h]; rfl))
      (hsmall.trans (by decide))
    rw [ofBits_of_lt hsmall, Nat.mod_eq_of_lt hsmall, hlow]
    rfl
  · have hlarge : fractionLimit ≤ b.toNat % signBit := by
      by_contra hsmall
      exact hlow (Nat.div_eq_of_lt (not_le.mp hsmall))
    have hlast : b.toNat % signBit / fractionLimit < 2048 :=
      Nat.div_lt_of_lt_mul (Nat.mod_lt _ (by decide))
    have hfinite : b.toNat % signBit < infinityBits := by
      rw [hlimit, ← Nat.div_lt_iff_lt_mul (by decide)]
      omega
    refine .of_ofBits ?_ _ ((by decide : 0 < fractionLimit).trans_le hlarge) hfinite
    rw [ofBits_of_le hlarge]
    norm_num

/-! ## Comparing -/

/-- Of two sizes the larger has the larger exponent, or the same exponent and the larger mantissa. -/
theorem ofBits_lt {a b : ℕ} (h : a < b) :
    (Magnitude.ofBits a).exponent < (Magnitude.ofBits b).exponent ∨
      (Magnitude.ofBits a).exponent = (Magnitude.ofBits b).exponent ∧
        (Magnitude.ofBits a).mantissa < (Magnitude.ofBits b).mantissa := by
  rcases Nat.lt_or_ge b fractionLimit with hb | hb
  · rw [ofBits_of_lt hb, ofBits_of_lt (h.trans hb)]
    exact Or.inr ⟨rfl, h⟩
  · rcases Nat.lt_or_ge a fractionLimit with ha | ha
    · rw [ofBits_of_lt ha, ofBits_of_le hb]
      dsimp only [fractionLimit] at ha hb ⊢
      omega
    · rw [ofBits_of_le ha, ofBits_of_le hb]
      dsimp only [fractionLimit]
      omega

theorem compare_ofBits_lt {a b : ℕ} (h : a < b) :
    ((compare (Magnitude.ofBits a).exponent (Magnitude.ofBits b).exponent).then
      (compare (Magnitude.ofBits a).mantissa (Magnitude.ofBits b).mantissa)) = .lt := by
  rcases ofBits_lt h with hexp | ⟨hexp, hman⟩
  · rw [compare_lt_iff_lt.mpr hexp]
    rfl
  · rw [compare_eq_iff_eq.mpr hexp, compare_lt_iff_lt.mpr hman]
    rfl

theorem compare_ofBits_gt {a b : ℕ} (h : b < a) :
    ((compare (Magnitude.ofBits a).exponent (Magnitude.ofBits b).exponent).then
      (compare (Magnitude.ofBits a).mantissa (Magnitude.ofBits b).mantissa)) = .gt := by
  rcases ofBits_lt h with hexp | ⟨hexp, hman⟩
  · rw [compare_gt_iff_gt.mpr hexp]
    rfl
  · rw [compare_eq_iff_eq.mpr hexp.symm, compare_gt_iff_gt.mpr hman]
    rfl

/-- Positive doubles are ordered by their sizes. -/
theorem compare_positive {a b : ℕ} {u v : UnpackedFloat} (hu : Unpacks .positive a u)
    (hv : Unpacks .positive b v) (h : a < b) (hb : b ≤ infinityBits) : u.compare v = some .lt := by
  cases hv with
  | zero => exact absurd h (Nat.not_lt_zero a)
  | finite hn _ hlt hbits =>
    cases hu with
    | zero => rfl
    | finite hm _ _ habits =>
      subst habits hbits
      exact congrArg some (compare_ofBits_lt h)
    | infinity => omega
    | notANumber ha => omega
  | infinity =>
    cases hu with
    | zero => rfl
    | finite => rfl
    | infinity => omega
    | notANumber ha => omega
  | notANumber hgt => omega

/-- Negative doubles are ordered by their sizes the other way round. -/
theorem compare_negative {a b : ℕ} {u v : UnpackedFloat} (hu : Unpacks .negative a u)
    (hv : Unpacks .negative b v) (h : b < a) (ha : a ≤ infinityBits) : u.compare v = some .lt := by
  cases hu with
  | zero => exact absurd h (Nat.not_lt_zero b)
  | finite hm _ hlt habits =>
    cases hv with
    | zero => rfl
    | finite hn _ _ hbits =>
      subst habits hbits
      exact congrArg (fun order : Ordering => some order.swap) (compare_ofBits_gt h)
    | infinity => omega
    | notANumber hb => omega
  | infinity =>
    cases hv with
    | zero => rfl
    | finite => rfl
    | infinity => omega
    | notANumber hb => omega
  | notANumber hgt => omega

/-- A negative double is below a positive one, unless both are zero. -/
theorem compare_opposite {a b : ℕ} {u v : UnpackedFloat} (hu : Unpacks .negative a u)
    (hv : Unpacks .positive b v) (h : a ≠ 0 ∨ b ≠ 0) (ha : a ≤ infinityBits) (hb : b ≤ infinityBits) :
    u.compare v = some .lt := by
  cases hu with
  | zero =>
    cases hv with
    | zero => omega
    | finite => rfl
    | infinity => rfl
    | notANumber hgt => omega
  | finite =>
    cases hv with
    | zero => rfl
    | finite => rfl
    | infinity => rfl
    | notANumber hgt => omega
  | infinity =>
    cases hv with
    | zero => rfl
    | finite => rfl
    | infinity => rfl
    | notANumber hgt => omega
  | notANumber hgt => omega

/-! ## Doubles and their places -/

theorem eq_of_toNat_toBits {x y : Float} (h : x.toBits.toNat = y.toBits.toNat) : x = y :=
  Float.toBits_inj.mp (UInt64.toNat_inj.mp h)

theorem unpacks_float (x : Float) :
    Unpacks (signOf x.toBits.toNat) (x.toBits.toNat % signBit) x.toModel.unpack :=
  unpacks x.toModel.toBits.toBitVec

theorem Unpacks.size_le {s : Sign} {size : ℕ} {u : UnpackedFloat} (h : Unpacks s size u)
    (hu : u.isNaN = false) : size ≤ infinityBits := by
  cases h with
  | zero => exact Nat.zero_le _
  | finite _ _ hlt _ => exact hlt.le
  | infinity => exact le_rfl
  | notANumber => cases hu

/-- A positive number has its size as its place; a negative one is counted down from minus one. -/
theorem place_cases {x : Float} (h : x.isNaN = false) : ∃ size ≤ infinityBits,
    x.toBits.toNat = size ∧ Score.place x = size ∧ Unpacks .positive size x.toModel.unpack ∨
      x.toBits.toNat = signBit + size ∧ Score.place x = -1 - size ∧
        Unpacks .negative size x.toModel.unpack := by
  have hlt : x.toBits.toNat < 2 ^ 64 := x.toBits.toNat_lt
  have hu := unpacks_float x
  refine ⟨x.toBits.toNat % signBit, hu.size_le h, ?_⟩
  rw [Score.place]
  by_cases hsign : x.toBits.toNat < signBit
  · rw [signOf, if_pos hsign] at hu
    exact Or.inl ⟨(Nat.mod_eq_of_lt hsign).symm, by simp only [if_pos hsign, Nat.mod_eq_of_lt hsign], hu⟩
  · rw [signOf, if_neg hsign] at hu
    simp only [if_neg hsign]
    simp only [signBit] at hsign ⊢
    exact Or.inr ⟨by omega, by omega, hu⟩

theorem lt_iff_compare (x y : Float) :
    x < y ↔ x.toModel.unpack.compare y.toModel.unpack = some .lt := by
  have hmodel : x < y ↔ x.toModel.unpack.lt y.toModel.unpack = true := decide_eq_true_iff
  rw [hmodel, UnpackedFloat.lt, beq_iff_eq]

theorem not_lt_of_beq {x y : Float} (h : (x == y) = true) : ¬ x < y := by
  have hbeq : x.toModel.unpack.compare y.toModel.unpack = some .eq := beq_iff_eq.mp h
  rw [lt_iff_compare, hbeq]
  nofun

/-- The order of places is the order of the numbers, but that it tells the zeros apart. -/
theorem lt_of_place_lt {x y : Float} (hx : x.isNaN = false) (hy : y.isNaN = false)
    (h : Score.place x < Score.place y) : x < y ∨ x = -0.0 ∧ y = 0.0 := by
  obtain ⟨a, ha, ⟨hbx, hpx, hux⟩ | ⟨hbx, hpx, hux⟩⟩ := place_cases hx
  · obtain ⟨b, hb, ⟨-, hpy, huy⟩ | ⟨-, hpy, -⟩⟩ := place_cases hy
    · exact Or.inl ((lt_iff_compare x y).mpr (compare_positive hux huy (by omega) hb))
    · omega
  · obtain ⟨b, hb, ⟨hby, hpy, huy⟩ | ⟨-, hpy, huy⟩⟩ := place_cases hy
    · by_cases hzero : a = 0 ∧ b = 0
      · obtain ⟨rfl, rfl⟩ := hzero
        exact Or.inr ⟨eq_of_toNat_toBits hbx, eq_of_toNat_toBits hby⟩
      · exact Or.inl ((lt_iff_compare x y).mpr (compare_opposite hux huy (by omega) ha hb))
    · exact Or.inl ((lt_iff_compare x y).mpr (compare_negative hux huy (by omega) ha))

/-- Numbers with the same place are the same. -/
theorem eq_of_place_eq {x y : Float} (hx : x.isNaN = false) (hy : y.isNaN = false)
    (h : Score.place x = Score.place y) : x = y := by
  refine eq_of_toNat_toBits ?_
  obtain ⟨a, ha, ⟨hbx, hpx, -⟩ | ⟨hbx, hpx, -⟩⟩ := place_cases hx
  · obtain ⟨b, hb, ⟨hby, hpy, -⟩ | ⟨hby, hpy, -⟩⟩ := place_cases hy
    · omega
    · omega
  · obtain ⟨b, hb, ⟨hby, hpy, -⟩ | ⟨hby, hpy, -⟩⟩ := place_cases hy
    · omega
    · omega

/-- Every number equals itself. -/
theorem beq_self {x : Float} (h : x.isNaN = false) : (x == x) = true := by
  rw [Float.beq_self_iff]
  rwa [Float.isNaN_eq_decide_eq_nan, decide_eq_false_iff_not] at h

/-- The negative zero is the only double that unpacks to it. -/
theorem eq_neg_zero_iff (x : Float) : x = -0.0 ↔ x.toModel.unpack = .zero .negative := by
  rw [← Float.toBits_inj, ← UInt64.toBitVec_inj]
  exact (unpack_eq_zero_iff_of_valid x.toModel.valid).symm

end Concordance.Proofs.Decimal.Comparing
