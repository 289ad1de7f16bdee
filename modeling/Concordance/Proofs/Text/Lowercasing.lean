import Concordance.Proofs.Text.Letters
import Concordance.Proofs.Text.Words

/-!
# Lowercase of texts

The form of a sigma depends on the letters around it, over any distance; but blanks are neither letters
nor passed over, so nothing is seen across a blank. Hence lowercase goes word by word, makes no word and
loses none. A lowercase text is its own lowercase, since no capital sigma is left in it.
-/
namespace Concordance.Proofs.Text.Lowercasing

open Concordance.Text Letters Words

/-- What a character becomes between the characters `before` it (nearest first) and those after it. -/
def lowerBetween (before : List Char) (c : Char) (rest : List Char) : List Char :=
  if c = 'Σ' then [if casedFirst before && !casedFirst rest then 'ς' else 'σ'] else lowerChar c

theorem lowerAfter_cons (before : List Char) (c : Char) (rest : List Char) :
    lowerAfter before (c :: rest) = lowerBetween before c rest ++ lowerAfter (c :: before) rest := by
  by_cases h : c = 'Σ'
  · subst h
    rw [lowerBetween, if_pos rfl]
    rfl
  · rw [lowerBetween, if_neg h, lowerAfter]
    exact h

/-- What a character becomes is either form of the small sigma, or what it becomes alone. -/
theorem lowerBetween_cases (before : List Char) (c : Char) (rest : List Char) :
    c = 'Σ' ∧ (lowerBetween before c rest = ['ς'] ∨ lowerBetween before c rest = ['σ']) ∨
      c ≠ 'Σ' ∧ lowerBetween before c rest = lowerChar c := by
  rw [lowerBetween]
  by_cases h : c = 'Σ'
  · refine Or.inl ⟨h, ?_⟩
    rw [if_pos h]
    split
    · exact Or.inl rfl
    · exact Or.inr rfl
  · exact Or.inr ⟨h, if_neg h⟩

theorem lowerBetween_ne_nil (before : List Char) (c : Char) (rest : List Char) :
    lowerBetween before c rest ≠ [] := by
  rcases lowerBetween_cases before c rest with ⟨-, h | h⟩ | ⟨-, h⟩
  · simp [h]
  · simp [h]
  · rw [h]
    exact lowerChar_ne_nil c

/-- Every character of a lowercase comes from one character of the text. -/
theorem exists_of_mem_lowerAfter {before text : List Char} {c : Char} (h : c ∈ lowerAfter before text) :
    ∃ d ∈ text, ∃ before' rest : List Char, c ∈ lowerBetween before' d rest := by
  induction text generalizing before with
  | nil => exact absurd h List.not_mem_nil
  | cons d text ih =>
    rw [lowerAfter_cons] at h
    rcases List.mem_append.mp h with h | h
    · exact ⟨d, List.mem_cons_self, before, text, h⟩
    · obtain ⟨d', hd', hbetween⟩ := ih h
      exact ⟨d', List.mem_cons_of_mem d hd', hbetween⟩

theorem isBlank_of_mem_lowerBetween {before : List Char} {c : Char} {rest : List Char} {d : Char}
    (h : d ∈ lowerBetween before c rest) : isBlank d = isBlank c := by
  rcases lowerBetween_cases before c rest with ⟨rfl, he | he⟩ | ⟨-, he⟩
  · rw [he, List.mem_singleton] at h
    subst h
    decide
  · rw [he, List.mem_singleton] at h
    subst h
    decide
  · exact isBlank_of_mem_lowerChar (he ▸ h)

theorem lowerBetween_blank {c : Char} (hc : isBlank c = true) (before rest : List Char) :
    lowerBetween before c rest = [c] := by
  rcases lowerBetween_cases before c rest with ⟨rfl, -⟩ | ⟨-, he⟩
  · exact absurd hc (by decide)
  · rw [he, lowerChar_blank hc]

/-! ## Nothing is seen across a blank -/

theorem casedFirst_append_blank (text : List Char) {c : Char} (hc : isBlank c = true)
    (rest : List Char) : casedFirst (text ++ c :: rest) = casedFirst text := by
  induction text with
  | nil =>
    rw [List.nil_append, casedFirst, List.dropWhile_cons_of_neg (by simp [caseIgnorable_blank hc])]
    exact cased_blank hc
  | cons d text ih =>
    by_cases hd : caseIgnorable.contains d = true
    · rw [List.cons_append, casedFirst, casedFirst, List.dropWhile_cons_of_pos hd,
        List.dropWhile_cons_of_pos hd]
      exact ih
    · rw [List.cons_append, casedFirst, casedFirst, List.dropWhile_cons_of_neg hd,
        List.dropWhile_cons_of_neg hd]

/-- What stands before the last blank does not matter. -/
theorem lowerAfter_append_blank_left (near : List Char) {c : Char} (hc : isBlank c = true)
    (far text : List Char) : lowerAfter (near ++ c :: far) text = lowerAfter near text := by
  induction text generalizing near with
  | nil => rfl
  | cons d text ih =>
    -- what is read moves in front of `near`, so the blank stays behind it
    rw [lowerAfter_cons, lowerAfter_cons, ← List.cons_append, ih, lowerBetween, lowerBetween,
      casedFirst_append_blank near hc]

/-- Nor does what stands after the next blank. -/
theorem lowerAfter_append_blank (before text : List Char) {c : Char} (hc : isBlank c = true)
    (rest : List Char) : lowerAfter before (text ++ c :: rest) =
      lowerAfter before text ++ c :: lowerOf rest := by
  induction text generalizing before with
  | nil =>
    have hfar := lowerAfter_append_blank_left [] hc before rest
    rw [List.nil_append] at hfar
    rw [List.nil_append, lowerAfter_cons, lowerBetween_blank hc, hfar]
    rfl
  | cons d text ih =>
    rw [List.cons_append, lowerAfter_cons, lowerAfter_cons, ih, lowerBetween, lowerBetween,
      casedFirst_append_blank text hc, List.append_assoc]

theorem lowerOf_append_blank (text : List Char) {c : Char} (hc : isBlank c = true)
    (rest : List Char) : lowerOf (text ++ c :: rest) = lowerOf text ++ c :: lowerOf rest :=
  lowerAfter_append_blank [] text hc rest

/-! ## Words -/

theorem unbroken_lowerAfter {run : List Char} (h : Unbroken run) (before : List Char) :
    Unbroken (lowerAfter before run) := by
  intro c hc
  obtain ⟨d, hd, before', rest, hc⟩ := exists_of_mem_lowerAfter hc
  rw [isBlank_of_mem_lowerBetween hc]
  exact h d hd

theorem unbroken_lowerOf {run : List Char} (h : Unbroken run) : Unbroken (lowerOf run) :=
  unbroken_lowerAfter h []

theorem lowerOf_eq_nil_iff (text : List Char) : lowerOf text = [] ↔ text = [] := by
  cases text with
  | nil => exact iff_of_true rfl rfl
  | cons c text =>
    refine iff_of_false ?_ (List.cons_ne_nil c text)
    rw [lowerOf, lowerAfter_cons]
    exact List.append_ne_nil_of_left_ne_nil (lowerBetween_ne_nil [] c text) _

/-! ## Lowercase of lowercase -/

/-- Characters that are their own lowercase. None of them is a capital sigma. -/
def AllSmall (text : List Char) : Prop :=
  ∀ c ∈ text, lowerChar c = [c]

theorem lowerAfter_of_allSmall {text : List Char} (h : AllSmall text) (before : List Char) :
    lowerAfter before text = text := by
  induction text generalizing before with
  | nil => rfl
  | cons c text ih =>
    have hc := h c List.mem_cons_self
    have hne : c ≠ 'Σ' := by
      rintro rfl
      exact absurd hc (by decide)
    rw [lowerAfter_cons, lowerBetween, if_neg hne, hc,
      ih fun d hd => h d (List.mem_cons_of_mem c hd), List.singleton_append]

theorem allSmall_lowerAfter (before text : List Char) : AllSmall (lowerAfter before text) := by
  intro c hc
  obtain ⟨d, -, before', rest, hc⟩ := exists_of_mem_lowerAfter hc
  rcases lowerBetween_cases before' d rest with ⟨-, he | he⟩ | ⟨-, he⟩
  · rw [he, List.mem_singleton] at hc
    subst hc
    decide
  · rw [he, List.mem_singleton] at hc
    subst hc
    decide
  · exact lowerChar_of_mem_lowerChar (he ▸ hc)

theorem lowerOf_lowerOf (text : List Char) : lowerOf (lowerOf text) = lowerOf text :=
  lowerAfter_of_allSmall (allSmall_lowerAfter [] text) []

theorem lowercase_lowercase (text : String) : lowercase (lowercase text) = lowercase text := by
  rw [lowercase, lowercase, String.toList_ofList, lowerOf_lowerOf]

end Concordance.Proofs.Text.Lowercasing
