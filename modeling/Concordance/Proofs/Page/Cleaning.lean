import Concordance.Proofs.Page.Pieces

/-!
# Normalized tokens are clean

No pass of normalization undoes what an earlier one did: lowercase brings in no blank and no punctuation,
and is cut where the text is blank. So the tokens of a text are words without punctuation, in lowercase
and no stop words. Such words are left as they are, and lists of them are exactly those that come back
when they are joined by spaces and normalized.
-/
namespace Concordance.Proofs.Page.Cleaning

open Concordance.Page Concordance.Text
open Normalizing Pieces Text.Letters Text.Lowercasing Text.Words

/-- A word that normalization leaves as it is. -/
structure Clean (token : String) : Prop where
  solid : Solid token
  unpunctuated : ∀ c ∈ token.toList, c ∉ punctuation
  not_stopWord : isStopWord token = false
  lowercase_eq : lowercase token = token

/-! ## Lowercase brings in no punctuation -/

/-- Punctuation as a set, which can be compared with the runs of capital letters. -/
def punctuationSet : CharSet :=
  ⟨[0x21, 0x23, 0x27, 0x2A, 0x2C, 0x2D, 0x2E, 0x2F, 0x3A, 0x3D, 0x3E, 0x40, 0x5B, 0x5C, 0x5D, 0x5E,
    0xA1, 0xA2, 0xBF, 0xC0]⟩

theorem contains_punctuationSet {c : Char} (h : c ∈ punctuation) : punctuationSet.contains c = true := by
  have hall : punctuation.all punctuationSet.contains = true := by decide
  exact List.all_eq_true.mp hall c h

theorem lowerRuns_clear_punctuation : lowerRuns.all (isClear punctuationSet.edges) = true := by decide

theorem mem_punctuation_of_mem_lowerChar {c d : Char} (h : d ∈ lowerChar c) (hd : d ∈ punctuation) :
    c ∈ punctuation := by
  by_cases hc : c = 'İ'
  · subst hc
    have hall : (lowerChar 'İ').all (fun d => !punctuation.contains d) = true := by decide
    have hnot := List.all_eq_true.mp hall d h
    simp [hd] at hnot
  · rw [lowerChar_eq hc, List.mem_singleton] at h
    subst h
    rwa [small_eq_of_contains lowerRuns_clear_punctuation (Or.inr (contains_punctuationSet hd))] at hd

theorem mem_punctuation_of_mem_lowerBetween {before : List Char} {c : Char} {rest : List Char}
    {d : Char} (h : d ∈ lowerBetween before c rest) (hd : d ∈ punctuation) : c ∈ punctuation := by
  rcases lowerBetween_cases before c rest with ⟨-, he | he⟩ | ⟨-, he⟩
  · rw [he, List.mem_singleton] at h
    subst h
    exact absurd hd (by decide)
  · rw [he, List.mem_singleton] at h
    subst h
    exact absurd hd (by decide)
  · exact mem_punctuation_of_mem_lowerChar (he ▸ h) hd

theorem not_punctuation_of_mem_lowerOf_stripped {run : List Char} {c : Char}
    (h : c ∈ lowerOf (stripped run)) : c ∉ punctuation := by
  obtain ⟨d, hd, before, rest, hbetween⟩ := exists_of_mem_lowerAfter h
  have hkept := (List.mem_filter.mp hd).2
  exact fun hc => by simp [mem_punctuation_of_mem_lowerBetween hbetween hc] at hkept

/-! ## Tokens -/

theorem clean_of_mem_normalize {text token : String} (h : token ∈ normalize text) : Clean token := by
  have hsolid := solid_of_mem_normalize h
  obtain ⟨word, hword, rfl⟩ := List.mem_map.mp h
  rw [normalizeOf_eq] at hword
  obtain ⟨run, -, hindexed⟩ := List.mem_filterMap.mp hword
  rw [indexed?] at hindexed
  split at hindexed
  · cases hindexed
  · rename_i hleft
    obtain rfl := Option.some.inj hindexed
    refine ⟨hsolid, fun c hc => ?_, ?_, ?_⟩
    · rw [String.toList_ofList] at hc
      exact not_punctuation_of_mem_lowerOf_stripped hc
    · exact Bool.eq_false_iff.mpr (not_or.mp hleft).2
    · rw [lowercase, String.toList_ofList, lowerOf_lowerOf]

theorem normalize_of_clean {token : String} (h : Clean token) : normalize token = [token] := by
  have hstripped : stripped token.toList = token.toList :=
    List.filter_eq_self.mpr fun c hc => by simpa using h.unpunctuated c hc
  have hlower : String.ofList (lowerOf token.toList) = token := h.lowercase_eq
  have hne : token.toList ≠ [] := mt String.toList_eq_nil_iff.mp h.solid.nonempty
  rw [Page.normalize, normalizeOf_unbroken h.solid.unbroken, indexed?, hstripped, hlower,
    if_neg (by simp [hne, h.not_stopWord]), Option.toList_some, List.map_singleton, hlower]

theorem normalize_intercalate_eq_iff (tokens : List String) :
    normalize (String.intercalate " " tokens) = tokens ↔ ∀ token ∈ tokens, Clean token := by
  constructor
  · intro h token htoken
    rw [← h] at htoken
    exact clean_of_mem_normalize htoken
  · intro h
    calc normalize (String.intercalate " " tokens)
        = tokens.flatMap normalize := normalize_intercalate tokens
      _ = tokens.flatMap fun token => [token] :=
          List.flatMap_congr fun token htoken => normalize_of_clean (h token htoken)
      _ = tokens := List.flatMap_singleton' tokens

/-- The tokens of a text are words without blanks or punctuation, in lowercase and no stop words, and
normalizing them again, joined by spaces, gives the same tokens. -/
theorem normalize_reaches_clean (text : String) :
    (∀ token ∈ normalize text, Clean token) ∧
      normalize (String.intercalate " " (normalize text)) = normalize text := by
  have hclean : ∀ token ∈ normalize text, Clean token := fun _ => clean_of_mem_normalize
  exact ⟨hclean, (normalize_intercalate_eq_iff _).mpr hclean⟩

/-- A stop word that punctuation kept apart, and a sigma that punctuation stood behind. -/
theorem normalize_gluedWords :
    normalize "¿D.E ΟΔΟΣ!\nmás-Q(ue)" = ["οδος", "más-que"] ∧
    "οδος" ∈ normalize "¿D.E ΟΔΟΣ!\nmás-Q(ue)" ∧ Clean "οδος" ∧
    normalize "οδος más-que" = ["οδος", "más-que"] := by
  have htokens : normalize "¿D.E ΟΔΟΣ!\nmás-Q(ue)" = ["οδος", "más-que"] := by decide +kernel
  have hmem : "οδος" ∈ normalize "¿D.E ΟΔΟΣ!\nmás-Q(ue)" := htokens ▸ List.mem_cons_self
  obtain ⟨hclean, hfixed⟩ := normalize_reaches_clean "¿D.E ΟΔΟΣ!\nmás-Q(ue)"
  rw [htokens] at hfixed
  exact ⟨htokens, hmem, hclean _ hmem, hfixed⟩

end Concordance.Proofs.Page.Cleaning
