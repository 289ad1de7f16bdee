import Concordance.Proofs.Decimal.Doubles
import Concordance.Proofs.Json.Numbers

/-!
# Doubles come back from their shortest digits

However the digits of a double are set out, with or without an exponent, the text stands for the same
number, which is near the double; so the double is the one that is read.
-/
namespace Concordance.Proofs.Json.Reals

open Concordance.Json Reader Running Numbers
open Concordance.Decimal
open Concordance.Proofs.Decimal.Nearest Concordance.Proofs.Decimal.Digits
open Concordance.Proofs.Decimal.Doubles

/-! ## What the text of a number stands for -/

/-- A text is read as a number of this size, with some coefficient and exponent. -/
def SpellsValue (text : List Char) (q : ℚ) : Prop :=
  ∃ (c : ℕ) (e : ℤ), Spells text c e ∧ (c : ℚ) * 10 ^ e = q

section
variable {c : ℕ} {e place : ℤ} (hplace : place = e + (Nat.toDigits 10 c).length)
include hplace

/-- Zeros between the point and the digits. -/
theorem spellsValue_below (hle : place ≤ 0) :
    SpellsValue (['0', '.'] ++ List.replicate (-place).toNat '0' ++ Nat.toDigits 10 c) (c * 10 ^ e) := by
  have hfigures := figures_toDigits c
  have hback : Figures (List.replicate (-place).toNat '0' ++ Nat.toDigits 10 c) :=
    ⟨List.append_ne_nil_of_right_ne_nil _ hfigures.ne_nil,
      fun d hd => (List.mem_append.mp hd).elim (isDigit_of_mem_zeros d) (hfigures.isDigit d)⟩
  have hspells := spells_point figures_zero (Or.inl rfl) hback
  refine ⟨_, _, hspells, ?_⟩
  rw [Nat.ofDigitChars_append, Nat.ofDigitChars_append, show Nat.ofDigitChars 10 ['0'] 0 = 0 from rfl,
    Nat.ofDigitChars_replicate_zero, Nat.mul_zero, Nat.ofDigitChars_ten_toDigits, List.length_append,
    List.length_replicate]
  congr 2
  omega

variable (hc : 0 < c)
include hc

/-- Zeros between the digits and the point. -/
theorem spellsValue_above (hle : ((Nat.toDigits 10 c).length : ℤ) ≤ place) :
    SpellsValue (Nat.toDigits 10 c ++ List.replicate (place - (Nat.toDigits 10 c).length).toNat '0' ++
      ['.', '0']) (c * 10 ^ e) := by
  have hfigures := figures_toDigits c
  obtain ⟨n, hn⟩ := Int.eq_ofNat_of_zero_le (by omega : 0 ≤ e)
  have hzeros : (place - (Nat.toDigits 10 c).length).toNat = n := by omega
  have hhead : (Nat.toDigits 10 c ++ List.replicate n '0').head? ≠ some '0' := by
    rw [List.head?_append_of_ne_nil _ hfigures.ne_nil]
    exact head?_toDigits_ne hc
  rw [hzeros, hn]
  refine ⟨_, _, spells_point (hfigures.append isDigit_of_mem_zeros) (Or.inr hhead) figures_zero, ?_⟩
  rw [Nat.ofDigitChars_append, Nat.ofDigitChars_append, Nat.ofDigitChars_ten_toDigits,
    Nat.ofDigitChars_replicate_zero, Nat.ofDigitChars_cons, Nat.ofDigitChars_nil]
  simp
  ring

/-- The point between the digits. -/
theorem spellsValue_within (hlo : 0 < place) (hhi : place < (Nat.toDigits 10 c).length) :
    SpellsValue ((Nat.toDigits 10 c).take place.toNat ++ ['.'] ++ (Nat.toDigits 10 c).drop place.toNat)
      (c * 10 ^ e) := by
  have hfigures := figures_toDigits c
  have hwhole : Figures ((Nat.toDigits 10 c).take place.toNat) :=
    ⟨by rw [ne_eq, List.take_eq_nil_iff]; exact not_or.mpr ⟨by omega, hfigures.ne_nil⟩,
      fun d hd => hfigures.isDigit d (List.mem_of_mem_take hd)⟩
  have hback : Figures ((Nat.toDigits 10 c).drop place.toNat) :=
    ⟨by rw [ne_eq, List.drop_eq_nil_iff]; omega, fun d hd => hfigures.isDigit d (List.mem_of_mem_drop hd)⟩
  have hhead : ((Nat.toDigits 10 c).take place.toNat).head? ≠ some '0' := by
    rw [List.head?_take, if_neg (by omega)]
    exact head?_toDigits_ne hc
  rw [List.append_assoc, List.singleton_append]
  refine ⟨_, _, spells_point hwhole (Or.inr hhead) hback, ?_⟩
  rw [List.take_append_drop, Nat.ofDigitChars_ten_toDigits, List.length_drop]
  congr 2
  omega

theorem spellsValue_positional : SpellsValue (exact.positional (Nat.toDigits 10 c) place) (c * 10 ^ e) := by
  rw [Layout.positional]
  split_ifs with hsmall hlarge hpointed
  · exact spellsValue_below hplace hsmall
  · exact spellsValue_above hplace hc hlarge
  · exact absurd rfl hpointed
  · exact spellsValue_within hplace hc (by omega) (by omega)

theorem spellsValue_scientific : SpellsValue (exact.scientific (Nat.toDigits 10 c) place) (c * 10 ^ e) := by
  have hfigures := figures_toDigits c
  have hvalue := Nat.ofDigitChars_ten_toDigits (n := c)
  have hhead := head?_toDigits_ne hc
  have hexponent : (if decide (place - 1 < 0) then
      -(Nat.ofDigitChars 10 (Nat.toDigits 10 (place - 1).natAbs) 0 : ℤ)
      else Nat.ofDigitChars 10 (Nat.toDigits 10 (place - 1).natAbs) 0) = place - 1 := by
    rw [Nat.ofDigitChars_ten_toDigits]
    split_ifs with hneg <;> simp only [decide_eq_true_eq] at hneg <;> omega
  have hsign : (if place - 1 < 0 then ['-'] else if exact.plus then ['+'] else []) =
      [if decide (place - 1 < 0) then '-' else '+'] := by
    by_cases hneg : place - 1 < 0 <;> simp [hneg, exact]
  simp only [Layout.scientific, hsign]
  generalize Nat.toDigits 10 c = text at *
  match text, hfigures with
  | [], hfigures => exact absurd rfl hfigures.ne_nil
  | [d], hfigures =>
    refine ⟨_, _, spells_exponent hfigures (Or.inr hhead) (figures_toDigits (place - 1).natAbs)
      (decide (place - 1 < 0)), ?_⟩
    rw [hexponent, hvalue, hplace]
    simp
  | d :: d' :: more, hfigures =>
    have hwhole : Figures [d] :=
      ⟨List.cons_ne_nil d [], List.forall_mem_singleton.mpr (hfigures.isDigit d List.mem_cons_self)⟩
    have hback : Figures (d' :: more) :=
      ⟨List.cons_ne_nil d' more, fun x hx => hfigures.isDigit x (List.mem_cons_of_mem d hx)⟩
    have hspells := spells_point_exponent hwhole (Or.inr hhead) (figures_toDigits (place - 1).natAbs)
      (decide (place - 1 < 0)) hback
    rw [hexponent, List.singleton_append, List.singleton_append, hvalue] at hspells
    refine ⟨_, _, by simpa using hspells, ?_⟩
    rw [hplace]
    congr 2
    simp only [List.length_cons]
    push_cast
    omega

end

theorem spellsValue_digits {d : Decimal.Digits} (hd : 0 < d.coefficient) :
    SpellsValue (exact.digits d) (d.coefficient * 10 ^ d.exponent) := by
  simp only [Layout.digits, exact]
  split_ifs
  · exact spellsValue_positional rfl hd
  · exact spellsValue_scientific rfl hd

/-! ## Doubles as values -/

theorem coefficient_pos_of_near {m : Magnitude} (h : Regular m) {d : Decimal.Digits}
    (hnear : Near m (d.coefficient * 10 ^ d.exponent)) : 0 < d.coefficient := by
  refine Nat.pos_of_ne_zero fun hzero => ?_
  have hlo := (near_bounds h hnear).1
  rw [hzero, Nat.cast_zero, zero_mul] at hlo
  exact absurd hlo (not_le.mpr (by positivity))

/-- The text of a finite double without its sign, and what the reader makes of it. -/
theorem exists_spells_magnitude {x : Float} (hx : x.isFinite = true) :
    ∃ (c : ℕ) (e : ℤ), Spells (exact.magnitude (x.toBits.toNat % signBit)) c e ∧
      toFloat (decide (signBit ≤ x.toBits.toNat)) c e = x := by
  rw [Layout.magnitude]
  split_ifs with hzero hpointed
  · exact ⟨_, _, spells_point figures_zero (Or.inl rfl) figures_zero, toFloat_zero hzero _⟩
  · exact absurd rfl hpointed
  · have hregular := regular_ofBits (Nat.pos_of_ne_zero hzero) ((isFinite_iff x).mp hx)
    have hnear := near_shortest hregular exact.tie
    obtain ⟨c, e, hspells, hvalue⟩ := spellsValue_digits (coefficient_pos_of_near hregular hnear)
    exact ⟨c, e, hspells, toFloat_of_near hx hzero (hvalue ▸ hnear)⟩

theorem realText_of_isFinite {x : Float} (hx : x.isFinite = true) :
    Value.realText x = if signBit ≤ x.toBits.toNat
      then '-' :: exact.magnitude (x.toBits.toNat % signBit)
      else exact.magnitude (x.toBits.toNat % signBit) := by
  rw [Value.realText, Layout.finite?]
  simp only [if_neg (not_le.mpr ((isFinite_iff x).mp hx)), String.toList_ofList]

theorem finite_of_toFloat {x : Float} (hx : x.isFinite = true) {negative : Bool} {c : ℕ} {e : ℤ}
    (h : toFloat negative c e = x) (rest : Bytes) :
    Reader.finite negative c e rest = .ok (.real x, rest) := by
  rw [Reader.finite]
  simp only [h, isInf_of_isFinite hx, Bool.false_eq_true, if_false, pure_run]

theorem restores_real {x : Float} (hx : x.isFinite = true) : Restores Reader.real (.real x) x := by
  intro rest hrest
  obtain ⟨c, e, hspells, hfloat⟩ := exists_spells_magnitude hx
  obtain ⟨d, more, htext, hdigit⟩ := hspells.starts
  have hrun := (hspells.unsigned_eq (decide (signBit ≤ x.toBits.toNat)) rest hrest).trans
    (finite_of_toFloat hx hfloat rest)
  obtain ⟨-, hd⟩ := toNat_of_isDigit hdigit
  rw [Value.compact, realText_of_isFinite hx]
  split_ifs with hsign
  · rw [decide_eq_true hsign] at hrun
    rw [utf8Of_cons_of_le (by decide), List.cons_append, Reader.real, bind_of_ok (first_cons rfl _),
      if_pos (Or.inl rfl), bind_of_ok ((number_minus _).trans hrun)]
    rfl
  · rw [decide_eq_false hsign, htext, utf8Of_cons_of_le (by omega), List.cons_append] at hrun
    rw [htext, utf8Of_cons_of_le (by omega), List.cons_append, Reader.real,
      bind_of_ok (first_cons (isBlank_of_isDigit (isDigit_byte hdigit)) _),
      if_pos (Or.inr (isDigit_byte hdigit)),
      bind_of_ok ((number_digit (isDigit_byte hdigit) _).trans hrun)]
    rfl

end Concordance.Proofs.Json.Reals
