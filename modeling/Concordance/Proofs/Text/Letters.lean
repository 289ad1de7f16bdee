import Concordance.Text.Blank
import Concordance.Text.Lowercase

/-!
# Lowercase of single characters

What the tables of case data say, put into laws. No blank has a lowercase, is the lowercase of anything
else, or has to do with case at all, and no small letter is a capital letter, so that a lowercase is its
own lowercase. The tables are compared run by run, which is enough because sets and runs are intervals.
-/
namespace Concordance.Proofs.Text.Letters

open Concordance.Text

/-! ## Sets by their edges -/

theorem after_cons_cons (n low high : Nat) (edges : List Nat) :
    CharSet.after n false (low :: high :: edges) =
      if n < low then false else if n < high then true else CharSet.after n false edges := rfl

/-- Whether a set, whose edges ascend, has no part from `low` on and below `high`. -/
def isApart (low high : Nat) : List Nat → Bool
  | low' :: high' :: edges => high.ble low' || (high'.ble low && isApart low high edges)
  | [low'] => high.ble low'
  | [] => true

def areApart : List Nat → List Nat → Bool
  | low :: high :: edges, edges' => isApart low high edges' && areApart edges edges'
  | [_], _ => false
  | [], _ => true

theorem after_of_isApart {n low high : Nat} {edges : List Nat} (hlow : low ≤ n) (hhigh : n < high)
    (h : isApart low high edges = true) : CharSet.after n false edges = false := by
  fun_induction isApart low high edges with
  | case1 low' high' edges ih =>
    rw [after_cons_cons]
    rcases Bool.or_eq_true_iff.mp h with hbelow | habove
    · rw [if_pos (Nat.lt_of_lt_of_le hhigh (Nat.ble_eq.mp hbelow))]
    · obtain ⟨habove, hrest⟩ := Bool.and_eq_true_iff.mp habove
      rw [if_neg (Nat.not_lt.mpr (Nat.le_trans (Nat.ble_eq.mp habove) hlow)), ih hrest, ite_self]
  | case2 low' =>
    rw [CharSet.after, if_pos (Nat.lt_of_lt_of_le hhigh (Nat.ble_eq.mp h))]
  | case3 => rfl

theorem after_of_areApart {n : Nat} {edges edges' : List Nat} (h : areApart edges edges' = true)
    (hn : CharSet.after n false edges = true) : CharSet.after n false edges' = false := by
  fun_induction areApart edges edges' with
  | case1 low high edges edges' ih =>
    obtain ⟨hapart, hrest⟩ := Bool.and_eq_true_iff.mp h
    rw [after_cons_cons] at hn
    split at hn
    · cases hn
    · rename_i hlow
      split at hn
      · rename_i hhigh
        exact after_of_isApart (Nat.not_lt.mp hlow) hhigh hapart
      · exact ih hrest hn
  | case2 => cases h
  | case3 => cases hn

/-! ## Blanks have to do with no case -/

theorem blanks_apart_cased : areApart blanks.edges cased.edges = true := by decide

theorem blanks_apart_caseIgnorable : areApart blanks.edges caseIgnorable.edges = true := by
  decide +kernel

theorem cased_blank {c : Char} (h : isBlank c = true) : cased.contains c = false :=
  after_of_areApart blanks_apart_cased h

theorem caseIgnorable_blank {c : Char} (h : isBlank c = true) : caseIgnorable.contains c = false :=
  after_of_areApart blanks_apart_caseIgnorable h

/-! ## Runs of capital letters -/

def span (r : CaseRun) : Nat :=
  r.last - r.first

theorem lowerBy_cases (n : Nat) (runs : List CaseRun) : lowerBy n runs = n ∨
    ∃ r ∈ runs, r.first ≤ n ∧ n ≤ r.last ∧ (n - r.first) % r.stride = 0 ∧
      lowerBy n runs = r.image + (n - r.first) := by
  fun_induction lowerBy n runs with
  | case1 => exact Or.inl rfl
  | case2 r runs hlt => exact Or.inl rfl
  | case3 r runs hlt hin =>
    exact Or.inr ⟨r, List.mem_cons_self, Nat.not_lt.mp hlt, hin.1, hin.2, rfl⟩
  | case4 r runs hlt hin ih =>
    refine ih.imp_right ?_
    rintro ⟨r', hr', h⟩
    exact ⟨r', List.mem_cons_of_mem r hr', h⟩

/-- Whether a set has no part between the capital letters of a run, and none between its small
ones. -/
def isClear (edges : List Nat) (r : CaseRun) : Bool :=
  isApart r.first (r.last + 1) edges && isApart r.image (r.image + span r + 1) edges

section
variable {edges : List Nat} {runs : List CaseRun} (h : ∀ r ∈ runs, isClear edges r = true)
include h

/-- The characters of a set that is clear of all runs have no lowercase of their own. -/
theorem lowerBy_of_mem {n : Nat} (hn : CharSet.after n false edges = true) :
    lowerBy n runs = n := by
  rcases lowerBy_cases n runs with he | ⟨r, hr, hfirst, hlast, -, -⟩
  · exact he
  · obtain ⟨hcapital, -⟩ := Bool.and_eq_true_iff.mp (h r hr)
    have hout := after_of_isApart hfirst (Nat.lt_succ_of_le hlast) hcapital
    rw [hn] at hout
    cases hout

/-- Nor are they the lowercase of any other character. -/
theorem lowerBy_mem {n : Nat} (hn : CharSet.after (lowerBy n runs) false edges = true) :
    lowerBy n runs = n := by
  rcases lowerBy_cases n runs with he | ⟨r, hr, hfirst, hlast, -, he⟩
  · exact he
  · obtain ⟨-, hsmall⟩ := Bool.and_eq_true_iff.mp (h r hr)
    have hout := after_of_isApart (n := lowerBy n runs) (by omega) (by rw [he, span]; omega) hsmall
    rw [hn] at hout
    cases hout

end

/-- Whether the runs, which ascend, hold no capital letter from `low` to `high`, or, if only every
second character there is asked for (`steps`), none of the same parity as `low`. -/
def isMissed (low high : Nat) (steps : Bool) : List CaseRun → Bool
  | ⟨first, last, stride, _⟩ :: runs =>
    high.blt first || ((last.blt low || (steps && stride.beq 2 && ((low + first) % 2).beq 1)) &&
      isMissed low high steps runs)
  | [] => true

theorem lowerBy_of_isMissed {n low high : Nat} {steps : Bool} {runs : List CaseRun} (hlow : low ≤ n)
    (hhigh : n ≤ high) (hsteps : steps = true → (n - low) % 2 = 0)
    (h : isMissed low high steps runs = true) : lowerBy n runs = n := by
  fun_induction isMissed low high steps runs with
  | case1 first last stride image runs ih =>
    rw [lowerBy]
    simp only [Bool.or_eq_true, Bool.and_eq_true, Nat.blt_eq, Nat.beq_eq] at h
    rcases h with hbelow | ⟨hside, hrest⟩
    · rw [if_pos (Nat.lt_of_le_of_lt hhigh hbelow)]
    · have hnot : ¬ (n ≤ last ∧ (n - first) % stride = 0 ∧ first ≤ n) := by
        rintro ⟨hlast, hstride, hfirst⟩
        rcases hside with habove | ⟨⟨htrue, htwo⟩, hodd⟩
        · omega
        · have heven := hsteps htrue
          rw [htwo] at hstride
          omega
      split
      · rfl
      · rename_i hfirst
        rw [if_neg fun hin => hnot ⟨hin.1, hin.2, Nat.not_lt.mp hfirst⟩, ih hrest]
  | case2 => rfl

/-- Whether no small letter of a run is a capital letter of one of the `runs`. -/
def isSettled (runs : List CaseRun) : CaseRun → Bool
  | ⟨first, last, stride, image⟩ =>
    isMissed image (image + (last - first)) ((last - first).beq 0 || stride.beq 2) runs

theorem lowerBy_lowerBy {runs : List CaseRun} (h : ∀ r ∈ runs, isSettled runs r = true) (n : Nat) :
    lowerBy (lowerBy n runs) runs = lowerBy n runs := by
  rcases lowerBy_cases n runs with he | ⟨r, hr, hfirst, hlast, hstride, he⟩
  · rw [he, he]
  · rw [he]
    refine lowerBy_of_isMissed (Nat.le_add_right _ _) (by omega) (fun hsteps => ?_) (h r hr)
    -- a single letter, or one of every second character
    rw [Nat.add_sub_cancel_left]
    rcases Bool.or_eq_true_iff.mp hsteps with hsingle | htwo
    · have := Nat.eq_of_beq_eq_true hsingle
      omega
    · rwa [Nat.eq_of_beq_eq_true htwo] at hstride

/-! ## The table -/

/-- The one character whose lowercase is two characters. -/
def dotted : CharSet :=
  ⟨[0x130, 0x131]⟩

theorem lowerRuns_clear_blanks : lowerRuns.all (isClear blanks.edges) = true := by decide

theorem lowerRuns_clear_dotted : lowerRuns.all (isClear dotted.edges) = true := by decide

theorem lowerRuns_settled : lowerRuns.all (isSettled lowerRuns) = true := by decide +kernel

/-- All small letters are characters. -/
theorem lowerRuns_valid : lowerRuns.all (fun r => (r.image + span r).blt 0xD800 ||
    ((0xDFFF : Nat).blt r.image && (r.image + span r).blt 0x110000)) = true := by decide

/-- The small letter of a character, which is the character itself if it has none of its own. -/
def small (c : Char) : Char :=
  Char.ofNat (lowerBy c.toNat lowerRuns)

theorem toNat_small (c : Char) : (small c).toNat = lowerBy c.toNat lowerRuns := by
  have hvalid : (lowerBy c.toNat lowerRuns).isValidChar := by
    rcases lowerBy_cases c.toNat lowerRuns with he | ⟨r, hr, hfirst, hlast, -, he⟩
    · rw [he]
      exact c.valid
    · have hv := List.all_eq_true.mp lowerRuns_valid r hr
      simp only [span, Bool.and_eq_true, Bool.or_eq_true, Nat.blt_eq] at hv
      rw [he, Nat.isValidChar]
      omega
  rw [small, Char.ofNat, dif_pos hvalid]
  rfl

theorem small_small (c : Char) : small (small c) = small c := by
  rw [small, toNat_small, lowerBy_lowerBy (List.all_eq_true.mp lowerRuns_settled)]
  rfl

/-- A character of a set that is clear of the table is its own small letter, and no other's. -/
theorem small_eq_of_contains {s : CharSet} (hs : lowerRuns.all (isClear s.edges) = true) {c : Char}
    (h : s.contains c = true ∨ s.contains (small c) = true) : small c = c := by
  have hclear := List.all_eq_true.mp hs
  have he : lowerBy c.toNat lowerRuns = c.toNat := by
    rcases h with hc | hc
    · exact lowerBy_of_mem hclear hc
    · rw [CharSet.contains, toNat_small] at hc
      exact lowerBy_mem hclear hc
  rw [small, he, Char.ofNat_toNat]

/-! ## What becomes of a character -/

/-- The small letters of ASCII are in the table too. -/
theorem toLower_ascii {c : Char} (h : c.toNat < 0x80) : c.toLower = small c := by
  have hall : ∀ n < 0x80, (Char.ofNat n).toLower = small (Char.ofNat n) := by decide
  simpa only [Char.ofNat_toNat] using hall c.toNat h

theorem lowerChar_eq {c : Char} (h : c ≠ 'İ') : lowerChar c = [small c] := by
  rw [lowerChar]
  split
  · rename_i hascii
    rw [toLower_ascii hascii]
  · rfl

theorem lowerChar_ne_nil (c : Char) : lowerChar c ≠ [] := by
  by_cases h : c = 'İ'
  · subst h
    decide
  · rw [lowerChar_eq h]
    exact List.cons_ne_nil _ _

theorem isBlank_small (c : Char) : isBlank (small c) = isBlank c := by
  rw [Bool.eq_iff_iff]
  constructor
  · intro h
    rwa [small_eq_of_contains lowerRuns_clear_blanks (Or.inr h)] at h
  · intro h
    rwa [small_eq_of_contains lowerRuns_clear_blanks (Or.inl h)]

/-- Lowercase is blank where the text is, and nowhere else. -/
theorem isBlank_of_mem_lowerChar {c d : Char} (h : d ∈ lowerChar c) : isBlank d = isBlank c := by
  by_cases hc : c = 'İ'
  · subst hc
    have hall : (lowerChar 'İ').all (fun d => isBlank d == isBlank 'İ') = true := by decide
    exact beq_iff_eq.mp (List.all_eq_true.mp hall d h)
  · rw [lowerChar_eq hc, List.mem_singleton] at h
    rw [h, isBlank_small]

theorem lowerChar_blank {c : Char} (h : isBlank c = true) : lowerChar c = [c] := by
  have hc : c ≠ 'İ' := by
    rintro rfl
    exact absurd h (by decide)
  rw [lowerChar_eq hc, small_eq_of_contains lowerRuns_clear_blanks (Or.inl h)]

/-- The lowercase of a character is made of characters that are their own lowercase. -/
theorem lowerChar_of_mem_lowerChar {c d : Char} (h : d ∈ lowerChar c) : lowerChar d = [d] := by
  by_cases hc : c = 'İ'
  · subst hc
    have hall : (lowerChar 'İ').all (fun d => lowerChar d == [d]) = true := by decide
    exact beq_iff_eq.mp (List.all_eq_true.mp hall d h)
  · rw [lowerChar_eq hc, List.mem_singleton] at h
    subst h
    have hne : small c ≠ 'İ' := by
      intro he
      have hdotted : dotted.contains (small c) = true := by
        rw [he]
        decide
      exact hc ((small_eq_of_contains lowerRuns_clear_dotted (Or.inr hdotted)).symm.trans he)
    rw [lowerChar_eq hne, small_small]

end Concordance.Proofs.Text.Letters
