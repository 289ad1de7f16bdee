import Mathlib.Data.List.TakeWhile
import Concordance.Text.Blank

/-!
# The words of a text

Cutting a text at a blank cuts its list of words, and a text without blanks is one word unless it is
empty. Everything else follows from these two facts: words joined by spaces are read back, and every
maximal run of characters other than blanks is a word.
-/
namespace Concordance.Proofs.Text.Words

open Concordance.Text

def Unbroken (run : List Char) : Prop :=
  ∀ c ∈ run, isBlank c = false

/-- What the words of a text are: not empty, and free of blanks. -/
structure Solid (word : String) : Prop where
  nonempty : word ≠ ""
  unbroken : Unbroken word.toList

theorem solid_iff (word : String) :
    Solid word ↔ word ≠ "" ∧ word.toList.all (fun c => !isBlank c) = true := by
  simp only [List.all_eq_true, Bool.not_eq_true']
  exact ⟨fun h => ⟨h.nonempty, h.unbroken⟩, fun h => ⟨h.1, h.2⟩⟩

instance (word : String) : Decidable (Solid word) :=
  decidable_of_iff _ (solid_iff word).symm

/-- A maximal run of characters other than blanks that a text holds at some place. -/
structure IsRun (text run : List Char) : Prop where
  nonempty : run ≠ []
  unbroken : Unbroken run
  maximal : ∃ before after : List Char, text = before ++ (run ++ after) ∧
    (∀ c ∈ before.getLast?, isBlank c = true) ∧ ∀ c ∈ after.head?, isBlank c = true

/-! ## Cutting at blanks -/

theorem wordsOf_append_blank (text : List Char) {c : Char} (hc : isBlank c = true)
    (rest : List Char) : wordsOf (text ++ c :: rest) = wordsOf text ++ wordsOf rest := by
  rw [wordsOf, List.splitOnP_append_cons text rest hc, List.filter_append]
  rfl

theorem wordsOf_unbroken {run : List Char} (h : Unbroken run) (hne : run ≠ []) :
    wordsOf run = [run] := by
  rw [wordsOf, List.splitOnP_eq_singleton h, List.filter_cons_of_pos (by simpa using hne)]
  rfl

/-- A text is a run without blanks, or such a run before a blank and a shorter text. -/
theorem text_induction {P : List Char → Prop} (unbroken : ∀ run, Unbroken run → P run)
    (blank : ∀ run c rest, Unbroken run → isBlank c = true → P rest → P (run ++ c :: rest))
    (text : List Char) : P text := by
  induction hn : text.length using Nat.strongRecOn generalizing text with
  | ind n ih =>
    -- cut before the first blank; a text without one is a run
    have hrun : Unbroken (text.takeWhile fun c => !isBlank c) := by
      intro c hc
      simpa using List.mem_takeWhile_imp hc
    have htext := List.takeWhile_append_dropWhile (p := fun c => !isBlank c) (l := text)
    cases hd : text.dropWhile (fun c => !isBlank c) with
    | nil =>
      rw [hd, List.append_nil] at htext
      exact htext ▸ unbroken _ hrun
    | cons c rest =>
      have hc : isBlank c = true := by
        have := List.head?_dropWhile_not (fun c => !isBlank c) text
        simpa [hd] using this
      rw [hd] at htext
      have hlength : rest.length < n := by
        have := congrArg List.length htext
        rw [List.length_append, List.length_cons] at this
        omega
      rw [← htext]
      exact blank _ c rest hrun hc (ih rest.length hlength rest rfl)

theorem unbroken_of_mem_wordsOf {text run : List Char} (h : run ∈ wordsOf text) : Unbroken run := by
  have hone : ∀ whole : List Char, Unbroken whole → run ∈ wordsOf whole → Unbroken run := by
    intro whole hwhole hrun
    by_cases hne : whole = []
    · subst hne
      cases hrun
    · rw [wordsOf_unbroken hwhole hne, List.mem_singleton] at hrun
      exact hrun ▸ hwhole
  induction text using text_induction with
  | unbroken whole hwhole => exact hone whole hwhole h
  | blank whole c rest hwhole hc ih =>
    rw [wordsOf_append_blank whole hc] at h
    exact (List.mem_append.mp h).elim (hone whole hwhole) ih

/-! ## Runs -/

theorem mem_wordsOf_of_isRun {text run : List Char} (h : IsRun text run) : run ∈ wordsOf text := by
  obtain ⟨before, after, rfl, hbefore, hafter⟩ := h.maximal
  have hrun : run ∈ wordsOf (run ++ after) := by
    cases after with
    | nil =>
      rw [List.append_nil, wordsOf_unbroken h.unbroken h.nonempty]
      exact List.mem_singleton_self run
    | cons c after =>
      rw [wordsOf_append_blank run (hafter c rfl), wordsOf_unbroken h.unbroken h.nonempty]
      exact List.mem_cons_self
  rcases List.eq_nil_or_concat before with rfl | ⟨front, c, rfl⟩
  · exact hrun
  · have hc : isBlank c = true := hbefore c (by simp)
    rw [List.concat_eq_append, List.append_assoc, List.singleton_append, wordsOf_append_blank front hc]
    exact List.mem_append_right _ hrun

theorem isRun_append_blank_right {run : List Char} (hne : run ≠ []) (h : Unbroken run) {c : Char}
    (hc : isBlank c = true) (rest : List Char) : IsRun (run ++ c :: rest) run where
  nonempty := hne
  unbroken := h
  maximal := by
    refine ⟨[], c :: rest, rfl, by simp, fun d hd => ?_⟩
    obtain rfl := Option.some.inj hd
    exact hc

theorem isRun_append_blank_left {rest run : List Char} (h : IsRun rest run) {c : Char}
    (hc : isBlank c = true) (text : List Char) : IsRun (text ++ c :: rest) run where
  nonempty := h.nonempty
  unbroken := h.unbroken
  maximal := by
    obtain ⟨before, after, rfl, hbefore, hafter⟩ := h.maximal
    refine ⟨text ++ c :: before, after, by simp, fun d hd => ?_, hafter⟩
    -- what stands before the run in the rest still does, and before the rest there is the blank
    rw [Option.mem_def, List.getLast?_append,
      List.getLast?_cons, Option.some_or] at hd
    obtain rfl := Option.some.inj hd
    cases hlast : before.getLast? with
    | none => exact hc
    | some e => exact hbefore e hlast

/-- The words of a text are its runs. -/
theorem mem_wordsOf_iff {text run : List Char} : run ∈ wordsOf text ↔ IsRun text run := by
  refine ⟨fun h => ?_, mem_wordsOf_of_isRun⟩
  induction text using text_induction with
  | unbroken whole hwhole =>
    by_cases hne : whole = []
    · subst hne
      cases h
    · rw [wordsOf_unbroken hwhole hne, List.mem_singleton] at h
      subst h
      exact ⟨hne, hwhole, [], [], by simp, by simp, by simp⟩
  | blank whole c rest hwhole hc ih =>
    rw [wordsOf_append_blank whole hc, List.mem_append] at h
    rcases h with h | h
    · by_cases hne : whole = []
      · subst hne
        cases h
      · rw [wordsOf_unbroken hwhole hne, List.mem_singleton] at h
        subst h
        exact isRun_append_blank_right hne hwhole hc rest
    · exact isRun_append_blank_left (ih h) hc whole

/-! ## Joining words by spaces -/

theorem words_append_space (first : String) (rest : String) :
    words (first ++ " " ++ rest) = words first ++ words rest := by
  have hspace : isBlank ' ' = true := by decide
  have hsplit : (first ++ " " ++ rest).toList = first.toList ++ ' ' :: rest.toList := by simp
  rw [words, hsplit, wordsOf_append_blank _ hspace, List.map_append]
  rfl

theorem words_solid {word : String} (h : Solid word) : words word = [word] := by
  have hne : word.toList ≠ [] := fun he => h.nonempty (String.toList_eq_nil_iff.mp he)
  rw [words, wordsOf_unbroken h.unbroken hne, List.map_singleton, String.ofList_toList]

/-- Words that are joined by single spaces are the words of the text they make. -/
theorem words_intercalate {tokens : List String} (h : ∀ token ∈ tokens, Solid token) :
    words (String.intercalate " " tokens) = tokens := by
  induction tokens with
  | nil => rfl
  | cons token tokens ih =>
    have hfirst := words_solid (h token List.mem_cons_self)
    have hrest := ih fun t ht => h t (List.mem_cons_of_mem token ht)
    cases tokens with
    | nil => rwa [String.intercalate_singleton]
    | cons next tokens => rw [String.intercalate_cons_cons, words_append_space, hfirst, hrest,
        List.singleton_append]

end Concordance.Proofs.Text.Words
