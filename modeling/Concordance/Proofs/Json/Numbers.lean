import Mathlib.Data.List.Basic
import Mathlib.Tactic.SplitIfs
import Concordance.Proofs.Json.Running

/-!
# Numbers come back from their digits

A run of digits ends where another byte comes, so what the reader takes for the digits before a point,
after it and in the exponent is what was written there.
-/
namespace Concordance.Proofs.Json.Numbers

open Concordance.Json Reader Running

/-! ## Runs of digits -/

structure Figures (digits : List Char) : Prop where
  ne_nil : digits ≠ []
  isDigit : ∀ c ∈ digits, c.isDigit = true

theorem Figures.append {s t : List Char} (hs : Figures s) (ht : ∀ c ∈ t, c.isDigit = true) :
    Figures (s ++ t) where
  ne_nil := List.append_ne_nil_of_left_ne_nil hs.ne_nil t
  isDigit c hc := (List.mem_append.mp hc).elim (hs.isDigit c) (ht c)

theorem isDigit_of_mem_zeros {n : Nat} : ∀ c ∈ List.replicate n '0', c.isDigit = true := by
  intro c hc
  rw [(List.mem_replicate.mp hc).2]
  rfl

theorem figures_zero : Figures ['0'] :=
  ⟨by decide, List.forall_mem_singleton.mpr rfl⟩

def Ended (rest : Bytes) : Prop :=
  ∀ b ∈ rest.head?, Json.isDigit b = false

theorem toNat_of_isDigit {c : Char} (h : c.isDigit = true) : 48 ≤ c.toNat ∧ c.toNat ≤ 57 := by
  simp only [Char.isDigit, Bool.and_eq_true, decide_eq_true_eq] at h
  exact h

theorem toNat_byte {c : Char} (h : c.toNat ≤ 127) : (byte c).toNat = c.toNat := by
  rw [byte, UInt8.toNat_ofNat', Nat.mod_eq_of_lt (by omega)]

theorem isDigit_byte {c : Char} (h : c.isDigit = true) : Json.isDigit (byte c) = true := by
  obtain ⟨hlo, hhi⟩ := toNat_of_isDigit h
  have hb := toNat_byte (c := c) (by omega)
  simp only [Json.isDigit, Bool.and_eq_true, decide_eq_true_eq, UInt8.le_iff_toNat_le, hb]
  exact ⟨hlo, hhi⟩

theorem utf8Of_digits {digits : List Char} (h : ∀ c ∈ digits, c.isDigit = true) :
    Text.utf8Of digits = digits.map byte := by
  induction digits with
  | nil => rfl
  | cons c digits ih =>
    obtain ⟨-, hhi⟩ := toNat_of_isDigit (h c List.mem_cons_self)
    rw [utf8Of_cons_of_le (by omega), ih fun d hd => h d (List.mem_cons_of_mem c hd), List.map_cons]

theorem digitsValue_digits {digits : List Char} (h : ∀ c ∈ digits, c.isDigit = true) :
    digitsValue (digits.map byte) = Nat.ofDigitChars 10 digits 0 := by
  rw [digitsValue, Nat.ofDigitChars_eq_foldl, List.foldl_map]
  refine List.foldl_ext _ _ 0 fun n c hc => ?_
  obtain ⟨-, hhi⟩ := toNat_of_isDigit (h c hc)
  rw [toNat_byte (by omega)]
  rfl

theorem span_digits {digits : List Char} (h : ∀ c ∈ digits, c.isDigit = true) {rest : Bytes}
    (hrest : Ended rest) : (digits.map byte ++ rest).takeWhile Json.isDigit = digits.map byte ∧
      (digits.map byte ++ rest).dropWhile Json.isDigit = rest := by
  have hall : ∀ b ∈ digits.map byte, Json.isDigit b = true := by
    intro b hb
    obtain ⟨c, hc, rfl⟩ := List.mem_map.mp hb
    exact isDigit_byte (h c hc)
  have hstop : rest.takeWhile Json.isDigit = [] ∧ rest.dropWhile Json.isDigit = rest := by
    cases rest with
    | nil => exact ⟨rfl, rfl⟩
    | cons b rest =>
      have hb := hrest b rfl
      simp [hb]
  rw [List.takeWhile_append_of_pos hall, List.dropWhile_append_of_pos hall, hstop.1, hstop.2,
    List.append_nil]
  exact ⟨rfl, rfl⟩

/-! ## The parts of a number -/

theorem wholeDigits_digits {digits : List Char} (h : Figures digits)
    (hzero : digits = ['0'] ∨ digits.head? ≠ some '0') {rest : Bytes} (hrest : Ended rest) :
    wholeDigits (digits.map byte ++ rest) = .ok (digits.map byte, rest) := by
  obtain ⟨htake, hdrop⟩ := span_digits h.isDigit hrest
  rw [wholeDigits, peek?_bind]
  cases digits with
  | nil => exact absurd rfl h.ne_nil
  | cons c digits =>
    have hc := h.isDigit c List.mem_cons_self
    simp only [List.map_cons, List.cons_append, List.head?_cons]
    by_cases hz : c = '0'
    · subst hz
      obtain rfl : digits = [] := by simpa using hzero
      rw [if_pos rfl, skip_bind, peek?_bind]
      simp only [List.map_nil, List.nil_append, List.tail_cons]
      cases rest with
      | nil => rfl
      | cons b rest =>
        simp only [List.head?_cons, hrest b rfl]
        rfl
    · have hbyte : byte c ≠ byte '0' := by
        intro he
        obtain ⟨-, hhi⟩ := toNat_of_isDigit hc
        have hnat := congrArg UInt8.toNat he
        rw [toNat_byte (by omega), toNat_byte (by decide)] at hnat
        exact hz (Char.toNat_inj.mp hnat)
      rw [if_neg hbyte, if_pos (isDigit_byte hc)]
      simp only [List.map_cons, List.cons_append] at htake hdrop
      rw [Reader.digits, htake, hdrop]

theorem fractionDigits_digits {digits : List Char} (h : Figures digits) {rest : Bytes}
    (hrest : Ended rest) : fractionDigits (digits.map byte ++ rest) = .ok (digits.map byte, rest) := by
  obtain ⟨htake, hdrop⟩ := span_digits h.isDigit hrest
  rw [fractionDigits, digits_bind, htake, hdrop, if_pos (by simpa using h.ne_nil), pure_run]

theorem exponent_signed {digits : List Char} (h : Figures digits) (negative : Bool) {rest : Bytes}
    (hrest : Ended rest) :
    exponent (byte (if negative then '-' else '+') :: (digits.map byte ++ rest)) =
      .ok (if negative then -(Nat.ofDigitChars 10 digits 0 : Int) else Nat.ofDigitChars 10 digits 0,
        rest) := by
  obtain ⟨htake, hdrop⟩ := span_digits h.isDigit hrest
  obtain ⟨c, digits', rfl⟩ := List.exists_cons_of_ne_nil h.ne_nil
  have hc := isDigit_byte (h.isDigit c List.mem_cons_self)
  have hsign : some (byte (if negative then '-' else '+')) = some (byte '+') ∨
      some (byte (if negative then '-' else '+')) = some (byte '-') := by
    cases negative <;> decide
  have hminus : some (byte (if negative then '-' else '+')) = some (byte '-') ↔ negative = true := by
    cases negative <;> decide
  rw [exponent, peek?_bind, ← digitsValue_digits h.isDigit]
  simp only [List.head?_cons, List.map_cons, List.cons_append] at htake hdrop ⊢
  rw [if_pos hsign, skip_bind, List.tail_cons, peek?_bind]
  simp only [List.head?_cons]
  rw [if_pos hc, digits_bind, htake, hdrop, pure_run]
  simp only [hminus]

/-! ## Numbers without a fraction -/

theorem ended_of_delimited {rest : Bytes} (h : Delimited rest) : Ended rest := by
  intro b hb
  rcases h b hb with rfl | rfl | rfl <;> rfl

/-- No zero stands in front of the digits of a number but its own. -/
theorem head?_toDigits_ne {n : Nat} (hn : 0 < n) : (Nat.toDigits 10 n).head? ≠ some '0' := by
  induction n using Nat.strongRecOn with
  | ind n ih =>
    rw [Nat.toDigits_eq_if (by decide)]
    split_ifs with hlt
    · simpa using Nat.pos_iff_ne_zero.mp hn
    · rw [List.head?_append_of_ne_nil _ Nat.toDigits_ne_nil]
      exact ih (n / 10) (by omega) (by omega)

theorem figures_toDigits (n : Nat) : Figures (Nat.toDigits 10 n) where
  ne_nil := Nat.toDigits_ne_nil
  isDigit _ hc := Nat.isDigit_of_mem_toDigits (by decide) (by decide) hc

theorem atExponent_run (bytes : Bytes) : atExponent bytes =
    .ok (decide (bytes.head? = some (byte 'e') ∨ bytes.head? = some (byte 'E')), bytes) := rfl

/-- No number goes on where a value ends. -/
theorem head?_ne_of_delimited {rest : Bytes} (h : Delimited rest) :
    rest.head? ≠ some (byte '.') ∧ ¬ (rest.head? = some (byte 'e') ∨ rest.head? = some (byte 'E')) := by
  cases rest with
  | nil => simp
  | cons b rest =>
    rw [List.head?_cons]
    rcases h b rfl with rfl | rfl | rfl <;> decide

theorem unsigned_natural {n : Nat} (hn : n < 0x10000000000000000) {rest : Bytes}
    (hrest : Delimited rest) :
    unsigned false ((Nat.toDigits 10 n).map byte ++ rest) = .ok (.natural n, rest) := by
  have hzero : Nat.toDigits 10 n = ['0'] ∨ (Nat.toDigits 10 n).head? ≠ some '0' := by
    rcases Nat.eq_zero_or_pos n with rfl | hpos
    · exact Or.inl (Nat.toDigits_zero 10)
    · exact Or.inr (head?_toDigits_ne hpos)
  obtain ⟨hpoint, hexponent⟩ := head?_ne_of_delimited hrest
  have hvalue := digitsValue_digits (figures_toDigits n).isDigit
  rw [Nat.ofDigitChars_ten_toDigits] at hvalue
  rw [unsigned, bind_of_ok (wholeDigits_digits (figures_toDigits n) hzero (ended_of_delimited hrest)),
    peek?_bind, if_neg hpoint, pure_bind]
  beta_reduce
  rw [bind_of_ok (atExponent_run rest), if_neg (by simpa using hexponent), if_neg hpoint]
  simp only [hvalue, Bool.false_eq_true, if_false, if_pos hn, pure_run]

/-! ## Numbers with a fraction or an exponent -/

theorem ended_point {rest : Bytes} : Ended (byte '.' :: rest) := by
  rintro _ ⟨⟩
  rfl

theorem ended_exponent {rest : Bytes} : Ended (byte 'e' :: rest) := by
  rintro _ ⟨⟩
  rfl

/-- A text without a sign that is read as a number, of which the nearest double is then taken. -/
structure Spells (text : List Char) (coefficient : Nat) (exponent : Int) : Prop where
  starts : ∃ (d : Char) (more : List Char), text = d :: more ∧ d.isDigit = true
  unsigned_eq : ∀ (negative : Bool) (rest : Bytes), Delimited rest →
    unsigned negative (Text.utf8Of text ++ rest) = finite negative coefficient exponent rest

theorem starts_append {whole : List Char} (hwhole : Figures whole) (t : List Char) :
    ∃ (d : Char) (more : List Char), whole ++ t = d :: more ∧ d.isDigit = true := by
  obtain ⟨d, more, rfl⟩ := List.exists_cons_of_ne_nil hwhole.ne_nil
  exact ⟨d, more ++ t, rfl, hwhole.isDigit d List.mem_cons_self⟩

section
variable {whole : List Char} (hwhole : Figures whole) (hzero : whole = ['0'] ∨ whole.head? ≠ some '0')
include hwhole hzero

theorem spells_point {back : List Char} (hback : Figures back) :
    Spells (whole ++ '.' :: back) (Nat.ofDigitChars 10 (whole ++ back) 0) (-(back.length : Int)) where
  starts := starts_append hwhole _
  unsigned_eq negative rest hrest := by
    obtain ⟨-, hexponent⟩ := head?_ne_of_delimited hrest
    rw [utf8Of_append, utf8Of_cons_of_le (by decide), utf8Of_digits hwhole.isDigit,
      utf8Of_digits hback.isDigit, List.append_assoc, List.cons_append, unsigned,
      bind_of_ok (wholeDigits_digits hwhole hzero ended_point), peek?_bind, List.head?_cons, if_pos rfl,
      skip_bind, List.tail_cons, bind_of_ok (fractionDigits_digits hback (ended_of_delimited hrest))]
    beta_reduce
    rw [bind_of_ok (atExponent_run rest), if_neg (by simpa using hexponent), if_pos rfl, ← List.map_append,
      digitsValue_digits (hwhole.append hback.isDigit).isDigit, List.length_map]

variable {figures : List Char} (hfigures : Figures figures) (down : Bool)
include hfigures

theorem spells_exponent : Spells (whole ++ 'e' :: (if down then '-' else '+') :: figures)
    (Nat.ofDigitChars 10 whole 0)
    (if down then -(Nat.ofDigitChars 10 figures 0 : Int) else Nat.ofDigitChars 10 figures 0) where
  starts := starts_append hwhole _
  unsigned_eq negative rest hrest := by
    rw [utf8Of_append, utf8Of_cons_of_le (by decide), utf8Of_cons_of_le (by cases down <;> decide),
      utf8Of_digits hwhole.isDigit, utf8Of_digits hfigures.isDigit, List.append_assoc, List.cons_append,
      List.cons_append, unsigned, bind_of_ok (wholeDigits_digits hwhole hzero ended_exponent), peek?_bind,
      List.head?_cons, if_neg (by decide), pure_bind]
    beta_reduce
    rw [bind_of_ok (atExponent_run _), if_pos (by rw [List.head?_cons]; decide), skip_bind, List.tail_cons,
      bind_of_ok (exponent_signed hfigures down (ended_of_delimited hrest)), List.append_nil,
      digitsValue_digits hwhole.isDigit, List.length_nil, Int.natCast_zero, Int.sub_zero]

theorem spells_point_exponent {back : List Char} (hback : Figures back) :
    Spells (whole ++ '.' :: (back ++ 'e' :: (if down then '-' else '+') :: figures))
      (Nat.ofDigitChars 10 (whole ++ back) 0)
      ((if down then -(Nat.ofDigitChars 10 figures 0 : Int) else Nat.ofDigitChars 10 figures 0) -
        back.length) where
  starts := starts_append hwhole _
  unsigned_eq negative rest hrest := by
    rw [utf8Of_append, utf8Of_cons_of_le (by decide), utf8Of_append, utf8Of_cons_of_le (by decide),
      utf8Of_cons_of_le (by cases down <;> decide), utf8Of_digits hwhole.isDigit,
      utf8Of_digits hback.isDigit, utf8Of_digits hfigures.isDigit]
    simp only [List.append_assoc, List.cons_append]
    rw [unsigned, bind_of_ok (wholeDigits_digits hwhole hzero ended_point), peek?_bind, List.head?_cons,
      if_pos rfl, skip_bind, List.tail_cons, bind_of_ok (fractionDigits_digits hback ended_exponent)]
    beta_reduce
    rw [bind_of_ok (atExponent_run _), if_pos (by rw [List.head?_cons]; decide), skip_bind, List.tail_cons,
      bind_of_ok (exponent_signed hfigures down (ended_of_delimited hrest)), ← List.map_append,
      digitsValue_digits (hwhole.append hback.isDigit).isDigit, List.length_map]

end

/-! ## Signs and whole numbers -/

theorem isBlank_of_isDigit {b : UInt8} (h : Json.isDigit b = true) : isBlank b = false := by
  simp only [Json.isDigit, Bool.and_eq_true, decide_eq_true_eq, UInt8.le_iff_toNat_le] at h
  have hlo : 48 ≤ b.toNat := h.1
  have hne : ∀ c : UInt8, c.toNat < 48 → b ≠ c := fun c hc he => by
    rw [he] at hlo
    omega
  simp [isBlank, hne]

theorem number_digit {b : UInt8} (h : Json.isDigit b = true) (rest : Bytes) :
    number (b :: rest) = unsigned false (b :: rest) := by
  have hne : ¬ some b = some (byte '-') := by
    rintro ⟨⟩
    exact absurd h (by decide)
  rw [number, peek?_bind, List.head?_cons, if_neg hne]

theorem number_minus (rest : Bytes) : number (byte '-' :: rest) = unsigned true rest := by
  rw [number, peek?_bind, List.head?_cons, if_pos rfl, skip_bind, List.tail_cons]

theorem restores_natural {n : Nat} (hn : n < 0x10000000000000000) :
    Restores Reader.natural (.natural n) n := by
  intro rest hrest
  have hfigures := figures_toDigits n
  have hrun := unsigned_natural hn hrest
  rw [Value.compact, utf8Of_digits hfigures.isDigit]
  obtain ⟨c, more, hc⟩ := List.exists_cons_of_ne_nil hfigures.ne_nil
  have hdigit : Json.isDigit (byte c) = true :=
    isDigit_byte (hfigures.isDigit c (hc ▸ List.mem_cons_self))
  rw [hc, List.map_cons, List.cons_append] at hrun ⊢
  rw [Reader.natural, bind_of_ok (first_cons (isBlank_of_isDigit hdigit) _), if_pos (Or.inr hdigit),
    bind_of_ok ((number_digit hdigit _).trans hrun)]
  rfl

end Concordance.Proofs.Json.Numbers
