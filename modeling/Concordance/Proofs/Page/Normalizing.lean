import Concordance.Page.Normalize
import Concordance.Proofs.Text.Lowercasing

/-!
# Normalization goes word by word

Line breaks, punctuation and case are dealt with on the whole text before it is cut into words. It
comes to the same to cut the text first and to deal with each word by itself: no blank is punctuation,
blanks stay blanks, and lowercase does not look beyond them.
-/
namespace Concordance.Proofs.Page.Normalizing

open Concordance.Page Concordance.Text Text.Words Text.Lowercasing

def stripped (run : List Char) : List Char :=
  run.filter (fun c => !punctuation.contains c)

/-- What is indexed of one word of a text: its characters without punctuation, in lowercase, unless
nothing is left or a stop word. -/
def indexed? (run : List Char) : Option (List Char) :=
  if stripped run = [] ∨ isStopWord (String.ofList (lowerOf (stripped run))) = true then none
  else some (lowerOf (stripped run))

/-! ## Single characters -/

theorem isBlank_spaced (c : Char) : isBlank (spaced c) = isBlank c := by
  rw [spaced]
  split
  · rename_i h
    rcases h with rfl | rfl | rfl
    · decide
    · decide
    · decide
  · rfl

theorem spaced_of_not_blank {c : Char} (h : isBlank c = false) : spaced c = c := by
  rw [spaced, if_neg]
  rintro (rfl | rfl | rfl)
  · exact absurd h (by decide)
  · exact absurd h (by decide)
  · exact absurd h (by decide)

theorem not_punctuation_of_blank {c : Char} (h : isBlank c = true) :
    punctuation.contains c = false := by
  have hall : punctuation.all (fun p => !isBlank p) = true := by decide
  rw [List.contains_eq_mem, decide_eq_false_iff_not]
  intro hmem
  have hnot := List.all_eq_true.mp hall c hmem
  rw [h] at hnot
  cases hnot

/-! ## One word -/

theorem unbroken_stripped {run : List Char} (h : Unbroken run) : Unbroken (stripped run) :=
  fun c hc => h c ((List.mem_filter.mp hc).1)

theorem normalizeOf_unbroken {run : List Char} (h : Unbroken run) :
    normalizeOf run = (indexed? run).toList := by
  have hspaced : run.map spaced = run :=
    (List.map_congr_left fun c hc => spaced_of_not_blank (h c hc)).trans (List.map_id run)
  have hkept : normalizeOf run =
      (wordsOf (lowerOf (stripped run))).filter (fun word => !isStopWord (String.ofList word)) := by
    rw [normalizeOf, hspaced]
    rfl
  rw [hkept, indexed?]
  by_cases hne : stripped run = []
  · rw [hne, if_pos (Or.inl rfl)]
    rfl
  · rw [wordsOf_unbroken (unbroken_lowerOf (unbroken_stripped h)) (mt (lowerOf_eq_nil_iff _).mp hne)]
    by_cases hstop : isStopWord (String.ofList (lowerOf (stripped run))) = true
    · rw [if_pos (Or.inr hstop), List.filter_cons_of_neg (by simpa using hstop)]
      rfl
    · rw [if_neg (not_or.mpr ⟨hne, hstop⟩), List.filter_cons_of_pos (by simpa using hstop)]
      rfl

/-! ## A text -/

/-- Nothing is made of the two sides of a blank together. -/
theorem normalizeOf_append_blank (text : List Char) {c : Char} (hc : isBlank c = true)
    (rest : List Char) : normalizeOf (text ++ c :: rest) = normalizeOf text ++ normalizeOf rest := by
  have hspaced : isBlank (spaced c) = true := (isBlank_spaced c).trans hc
  -- each of the passes leaves the blank where it is and splits there
  rw [normalizeOf, List.map_append, List.map_cons, List.filter_append,
    List.filter_cons_of_pos (by rw [not_punctuation_of_blank hspaced]; rfl),
    lowerOf_append_blank _ hspaced, wordsOf_append_blank _ hspaced, List.filter_append]
  rfl

theorem filterMap_indexed_unbroken {run : List Char} (h : Unbroken run) :
    (wordsOf run).filterMap indexed? = (indexed? run).toList := by
  by_cases hne : run = []
  · subst hne
    rfl
  · rw [wordsOf_unbroken h hne]
    cases hi : indexed? run <;> simp [hi]

theorem normalizeOf_eq (text : List Char) : normalizeOf text = (wordsOf text).filterMap indexed? := by
  induction text using text_induction with
  | unbroken run h => rw [normalizeOf_unbroken h, filterMap_indexed_unbroken h]
  | blank run c rest h hc ih =>
    rw [normalizeOf_append_blank run hc, wordsOf_append_blank run hc, List.filterMap_append,
      normalizeOf_unbroken h, filterMap_indexed_unbroken h, ih]

/-- What is indexed is a word again. -/
theorem solid_of_mem_normalize {text token : String} (h : token ∈ normalize text) : Solid token := by
  obtain ⟨word, hword, rfl⟩ := List.mem_map.mp h
  rw [normalizeOf_eq] at hword
  obtain ⟨run, hrun, hindexed⟩ := List.mem_filterMap.mp hword
  rw [indexed?] at hindexed
  split at hindexed
  · cases hindexed
  · rename_i hleft
    obtain rfl := Option.some.inj hindexed
    refine ⟨fun he => hleft (Or.inl ?_), ?_⟩
    · rw [← lowerOf_eq_nil_iff, ← @String.toList_ofList (lowerOf _), he]
      rfl
    · rw [String.toList_ofList]
      exact unbroken_lowerOf (unbroken_stripped (unbroken_of_mem_wordsOf hrun))

/-! ## Words as they were written -/

def written (run : List Char) : String :=
  String.ofList (stripped run)

/-- What is left of a word is indexed in lowercase, if it is something and no stop word. -/
theorem lowercase_written_mem {text : String} {run : List Char} (h : IsRun text.toList run)
    (hne : written run ≠ "") (hstop : isStopWord (lowercase (written run)) = false) :
    lowercase (written run) ∈ normalize text := by
  have hlower : lowercase (written run) = String.ofList (lowerOf (stripped run)) := by
    rw [lowercase, written, String.toList_ofList]
  rw [hlower] at hstop ⊢
  refine List.mem_map_of_mem ?_
  rw [normalizeOf_eq]
  refine List.mem_filterMap.mpr ⟨run, mem_wordsOf_of_isRun h, ?_⟩
  have hleft : stripped run ≠ [] := fun he => hne (by rw [written, he])
  rw [indexed?, if_neg]
  rintro (he | he)
  · exact hleft he
  · rw [hstop] at he
    cases he

end Concordance.Proofs.Page.Normalizing
