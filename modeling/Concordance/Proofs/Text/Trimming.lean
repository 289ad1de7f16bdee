import Mathlib.Data.List.DropRight
import Concordance.Text.Blank

/-!
# The blanks around a text

Trimming takes blanks off the two ends of a text and nothing else, and nothing is left of a text exactly
if it is all blanks. Blanks added at the ends are taken off again.
-/
namespace Concordance.Proofs.Text.Trimming

open Concordance.Text

theorem trimmed_eq (text : List Char) :
    trimmed text = (text.dropWhile isBlank).rdropWhile isBlank := rfl

theorem exists_margins (text : List Char) : ∃ lead trail : List Char,
    (∀ c ∈ lead ++ trail, isBlank c = true) ∧ text = lead ++ (trimmed text ++ trail) := by
  refine ⟨text.takeWhile isBlank, (text.dropWhile isBlank).rtakeWhile isBlank, fun c hc => ?_, ?_⟩
  · exact (List.mem_append.mp hc).elim List.mem_takeWhile_imp List.mem_rtakeWhile_imp
  · rw [trimmed_eq, List.rdropWhile_append_rtakeWhile, List.takeWhile_append_dropWhile]

theorem trimmed_append_left {lead : List Char} (h : ∀ c ∈ lead, isBlank c = true)
    (text : List Char) : trimmed (lead ++ text) = trimmed text := by
  rw [trimmed_eq, trimmed_eq, List.dropWhile_append_of_pos h]

theorem trimmed_eq_nil_iff (text : List Char) :
    trimmed text = [] ↔ ∀ c ∈ text, isBlank c = true := by
  constructor
  · intro h c hc
    obtain ⟨lead, trail, hblank, htext⟩ := exists_margins text
    rw [h, List.nil_append] at htext
    exact hblank c (htext ▸ hc)
  · intro h
    have htext := trimmed_append_left h []
    rwa [List.append_nil] at htext

theorem trimmed_append_right (text : List Char) {trail : List Char}
    (h : ∀ c ∈ trail, isBlank c = true) : trimmed (text ++ trail) = trimmed text := by
  by_cases hall : ∀ c ∈ text, isBlank c = true
  · have hboth : ∀ c ∈ text ++ trail, isBlank c = true :=
      fun c hc => (List.mem_append.mp hc).elim (hall c) (h c)
    rw [(trimmed_eq_nil_iff text).mpr hall, (trimmed_eq_nil_iff _).mpr hboth]
  · -- something is left of the text, so what is dropped on the left ends before the blanks
    have hleft : text.dropWhile isBlank ≠ [] := mt List.dropWhile_eq_nil_iff.mp hall
    have hreverse : ∀ c ∈ trail.reverse, isBlank c = true :=
      fun c hc => h c (List.mem_reverse.mp hc)
    rw [trimmed_eq, trimmed_eq, List.dropWhile_append, if_neg (by simpa using hleft),
      List.rdropWhile, List.reverse_append, List.dropWhile_append_of_pos hreverse]
    rfl

theorem trim_eq_empty_iff (text : String) :
    trim text = "" ↔ ∀ c ∈ text.toList, isBlank c = true := by
  rw [trim, String.ofList_eq_empty_iff, trimmed_eq_nil_iff]

end Concordance.Proofs.Text.Trimming
