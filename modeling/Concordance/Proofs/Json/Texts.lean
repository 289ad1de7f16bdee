import Mathlib.Tactic.SplitIfs
import Concordance.Proofs.Json.Running

/-!
# Texts come back from between their quotes

Each character is written as one escape or as its own bytes, none of which is a quote, a backslash or a
control character, so the quote that ends the text is the first one that is met.
-/
namespace Concordance.Proofs.Json.Texts

open Concordance.Json Reader Running

/-! ## Bytes that stand for themselves -/

structure Plain (b : UInt8) : Prop where
  not_control : 0x20 ≤ b.toNat
  ne_quote : b.toNat ≠ 0x22
  ne_backslash : b.toNat ≠ 0x5C

theorem textBytes_plain {b : UInt8} (h : Plain b) (fuel : Nat) (taken rest : Bytes) :
    textBytes (fuel + 1) taken (b :: rest) = textBytes fuel (b :: taken) rest := by
  have hq : b ≠ byte '"' := fun he => h.ne_quote (he ▸ rfl)
  have hb : b ≠ byte '\\' := fun he => h.ne_backslash (he ▸ rfl)
  have hc : ¬ b < 0x20 := fun hlt => absurd (UInt8.lt_iff_toNat_lt.mp hlt) (Nat.not_lt.mpr h.not_control)
  rw [textBytes]
  simp [nextInText, hq, hb, hc]

/-- From `U+0080` on, all bytes of a character are above those of ASCII. -/
theorem plain_utf8EncodeChar {c : Char} (hq : c ≠ '"') (hb : c ≠ '\\') (hc : 0x20 ≤ c.toNat) :
    ∀ b ∈ String.utf8EncodeChar c, Plain b := by
  have hhigh : ∀ n : Nat, 128 ≤ n → n < 256 → Plain (UInt8.ofNat n) := by
    intro n hlo hhi
    have hto : (UInt8.ofNat n).toNat = n := by rw [UInt8.toNat_ofNat', Nat.mod_eq_of_lt hhi]
    exact ⟨by omega, by omega, by omega⟩
  rcases Nat.lt_or_ge 127 c.toNat with hbeyond | hascii
  · have hval : ¬ c.val.toNat ≤ 127 := Nat.not_le.mpr hbeyond
    intro b hmem
    rw [String.utf8EncodeChar] at hmem
    simp only [if_neg hval] at hmem
    split at hmem
    · simp only [List.mem_cons, List.not_mem_nil, or_false] at hmem
      rcases hmem with rfl | rfl <;> exact hhigh _ (by omega) (by omega)
    split at hmem
    · simp only [List.mem_cons, List.not_mem_nil, or_false] at hmem
      rcases hmem with rfl | rfl | rfl <;> exact hhigh _ (by omega) (by omega)
    · simp only [List.mem_cons, List.not_mem_nil, or_false] at hmem
      rcases hmem with rfl | rfl | rfl | rfl <;> exact hhigh _ (by omega) (by omega)
  · rw [utf8EncodeChar_of_le hascii]
    intro b hmem
    rw [List.mem_singleton.mp hmem]
    have hto : (byte c).toNat = c.toNat := by
      rw [byte, UInt8.toNat_ofNat', Nat.mod_eq_of_lt (by omega)]
    refine ⟨hto ▸ hc, fun he => hq (Char.toNat_inj.mp (hto ▸ he)), fun he => hb (Char.toNat_inj.mp (hto ▸ he))⟩

/-! ## What is taken for a text -/

/-- Bytes between quotes that are taken for the bytes of a text, in at most as many steps as they
are. -/
def TakenFor (text written : Bytes) : Prop :=
  ∃ steps ≤ written.length, ∀ (fuel : Nat) (taken rest : Bytes),
    textBytes (fuel + steps) taken (written ++ rest) = textBytes fuel (text.reverse ++ taken) rest

theorem takenFor_nil : TakenFor [] [] :=
  ⟨0, Nat.zero_le _, fun _ _ _ => rfl⟩

theorem takenFor_append {s t v w : Bytes} (h : TakenFor s v) (h' : TakenFor t w) :
    TakenFor (s ++ t) (v ++ w) := by
  obtain ⟨m, hm, hv⟩ := h
  obtain ⟨n, hn, hw⟩ := h'
  refine ⟨n + m, by rw [List.length_append]; omega, fun fuel taken rest => ?_⟩
  rw [← Nat.add_assoc, List.append_assoc, hv, hw, List.reverse_append, List.append_assoc]

theorem takenFor_plain {bytes : Bytes} (h : ∀ b ∈ bytes, Plain b) : TakenFor bytes bytes := by
  induction bytes with
  | nil => exact takenFor_nil
  | cons b bytes ih =>
    exact takenFor_append (s := [b]) (v := [b])
      ⟨1, Nat.le_refl 1, textBytes_plain (h b List.mem_cons_self)⟩
      (ih fun b' hb' => h b' (List.mem_cons_of_mem b hb'))

theorem takenFor_escape {c : Char} {written : Bytes}
    (h : ∀ rest : Bytes, escape (written ++ rest) = .ok (c, rest)) :
    TakenFor (String.utf8EncodeChar c) (byte '\\' :: written) := by
  refine ⟨1, Nat.le_add_left _ _, fun fuel taken rest => ?_⟩
  rw [List.cons_append, textBytes]
  simp only [nextInText, bind_assoc, next?_bind, List.head?_cons, List.tail_cons, pure_bind]
  rw [if_neg (by decide), if_pos trivial, bind_of_ok (h rest)]

/-! ## Escapes -/

theorem hexEscape_of_lt {a b c d : UInt8} {n : Nat} (hvalue : hexValue4? a b c d = some n)
    (hn : n < 0xD800) (rest : Bytes) :
    hexEscape (a :: b :: c :: d :: rest) = .ok (Char.ofNat n, rest) := by
  have hdigits : hex4 (a :: b :: c :: d :: rest) = .ok (n, rest) := by
    rw [hex4, hvalue]
  rw [hexEscape, bind_of_ok hdigits, if_neg (by omega), if_neg (by omega), pure_run]

/-- Control characters without a letter of their own are written with two digits. -/
theorem hexValue4?_control : ∀ n < 0x20,
    hexValue4? (byte '0') (byte '0') (byte (Nat.digitChar (n / 16))) (byte (Nat.digitChar (n % 16))) =
      some n := by
  decide

theorem digitChar_le : ∀ n < 0x20,
    (Nat.digitChar (n / 16)).toNat ≤ 127 ∧ (Nat.digitChar (n % 16)).toNat ≤ 127 := by
  decide

theorem takenFor_control {c : Char} (h : c.toNat < 0x20) : TakenFor (String.utf8EncodeChar c)
    (Text.utf8Of ['\\', 'u', '0', '0', Nat.digitChar (c.toNat / 16), Nat.digitChar (c.toNat % 16)]) := by
  obtain ⟨hhigh, hlow⟩ := digitChar_le c.toNat h
  repeat rw [utf8Of_cons_of_le (by first | assumption | decide)]
  refine takenFor_escape fun rest => ?_
  have hvalue := hexEscape_of_lt (hexValue4?_control c.toNat h) (by omega) rest
  rw [Char.ofNat_toNat] at hvalue
  exact hvalue

/-- The escapes of one letter each stand for their character. -/
theorem takenFor_letter {c d : Char} (hd : d.toNat ≤ 127)
    (h : ∀ rest : Bytes, escape (byte d :: rest) = .ok (c, rest)) :
    TakenFor (String.utf8EncodeChar c) (Text.utf8Of ['\\', d]) := by
  rw [utf8Of_cons_of_le (by decide), utf8Of_cons_of_le hd]
  exact takenFor_escape h

theorem takenFor_quotedChar (c : Char) :
    TakenFor (String.utf8EncodeChar c) (Text.utf8Of (quotedChar c)) := by
  rw [quotedChar]
  split_ifs with hq hb h8 hc hn hr ht hcontrol
  · subst hq
    exact takenFor_letter (by decide) fun _ => rfl
  · subst hb
    exact takenFor_letter (by decide) fun _ => rfl
  · subst h8
    exact takenFor_letter (by decide) fun _ => rfl
  · subst hc
    exact takenFor_letter (by decide) fun _ => rfl
  · subst hn
    exact takenFor_letter (by decide) fun _ => rfl
  · subst hr
    exact takenFor_letter (by decide) fun _ => rfl
  · subst ht
    exact takenFor_letter (by decide) fun _ => rfl
  · exact takenFor_control hcontrol
  · rw [utf8Of_cons, utf8Of_nil, List.append_nil]
    exact takenFor_plain (plain_utf8EncodeChar hq hb (Nat.le_of_not_lt hcontrol))

/-! ## Whole texts -/

theorem takenFor_text (text : List Char) :
    TakenFor (Text.utf8Of text) (Text.utf8Of (text.flatMap quotedChar)) := by
  induction text with
  | nil => exact takenFor_nil
  | cons c text ih =>
    rw [List.flatMap_cons, utf8Of_append]
    exact takenFor_append (takenFor_quotedChar c) ih

theorem ofUtf8?_utf8Of (text : List Char) : Text.ofUtf8? (Text.utf8Of text) = some (String.ofList text) := by
  have hbytes : (⟨(Text.utf8Of text).toArray⟩ : ByteArray) = text.utf8Encode := by
    rw [← List.data_toByteArray]
    rfl
  rw [Text.ofUtf8?, hbytes, String.fromUTF8?, dif_pos ⟨text, rfl⟩]
  rfl

/-- The text, its closing quote, and nothing after it. -/
theorem textRest_quoted (text : String) (rest : Bytes) :
    textRest (Text.utf8Of (text.toList.flatMap quotedChar) ++ byte '"' :: rest) = .ok (text, rest) := by
  obtain ⟨steps, hsteps, h⟩ := takenFor_text text.toList
  generalize Text.utf8Of (text.toList.flatMap quotedChar) = written at *
  obtain ⟨fuel, hfuel⟩ : ∃ fuel, (written ++ byte '"' :: rest).length + 1 = fuel + 1 + steps :=
    ⟨(written ++ byte '"' :: rest).length - steps, by rw [List.length_append]; omega⟩
  have hend : textBytes (fuel + 1 + steps) [] (written ++ byte '"' :: rest) =
      .ok ((Text.utf8Of text.toList).reverse, rest) := by
    rw [h, List.append_nil]
    rfl
  rw [textRest, left_bind, hfuel, bind_of_ok hend, List.reverse_reverse, ofUtf8?_utf8Of, String.ofList_toList]
  rfl

theorem utf8Of_quoted (text : List Char) : Text.utf8Of (quoted text) =
    byte '"' :: (Text.utf8Of (text.flatMap quotedChar) ++ [byte '"']) := by
  rw [quoted, utf8Of_cons_of_le (by decide), utf8Of_append, utf8Of_cons_of_le (by decide)]
  rfl

/-- A key is read from its opening quote on. -/
theorem key_quoted (name : String) (rest : Bytes) :
    key (Text.utf8Of (quoted name.toList) ++ rest) = .ok (name, rest) := by
  rw [key, skip_bind, utf8Of_quoted, List.cons_append, List.append_assoc]
  exact textRest_quoted name rest

theorem restores_text (s : String) : Restores Reader.text (.text s) s := by
  intro rest _
  rw [Value.compact, utf8Of_quoted, List.cons_append, Reader.text, bind_of_ok (first_cons rfl _),
    if_pos rfl, skip_bind, List.tail_cons, List.append_assoc]
  exact textRest_quoted s rest

end Concordance.Proofs.Json.Texts
