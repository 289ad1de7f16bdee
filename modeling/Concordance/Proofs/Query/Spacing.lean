import Mathlib.Data.List.Chain
import Concordance.Proofs.Query.Lexing

/-!
# Tokens and their spacing

A writing puts tokens down one after another with layout before, between and after them. Layout may be
missing everywhere but between two tokens of which neither is a parenthesis. The tokens of a query are
then those that some proper writing of it shows, and nothing of the query is lost but its layout.
-/
namespace Concordance.Proofs.Query.Spacing

open Concordance.Query Lexing

def IsGap (run : List Char) : Prop :=
  ∀ c ∈ run, c ∈ [' ', '\t', '\n', '\r']

/-- Tokens as they are written down: what stands before the first of them, and each with what stands
after it. -/
structure Writing where
  lead : List Char
  pieces : List (Token × List Char)

namespace Writing

def tokens (w : Writing) : List Token :=
  w.pieces.map Prod.fst

def text (w : Writing) : List Char :=
  w.lead ++ w.pieces.flatMap fun p => p.1.text.toList ++ p.2

/-- Only layout stands around the tokens, and some between any two that are no parentheses. -/
structure Proper (w : Writing) : Prop where
  lead : IsGap w.lead
  gaps : ∀ p ∈ w.pieces, IsGap p.2
  apart : w.pieces.IsChain fun p q => isParen p.1 = false → isParen q.1 = false → p.2 ≠ []

def cons (gap : List Char) (t : Token) (w : Writing) : Writing :=
  ⟨gap, (t, w.lead) :: w.pieces⟩

@[simp] theorem tokens_cons (gap : List Char) (t : Token) (w : Writing) :
    (cons gap t w).tokens = t :: w.tokens := rfl

@[simp] theorem text_cons (gap : List Char) (t : Token) (w : Writing) :
    (cons gap t w).text = gap ++ (t.text.toList ++ w.text) := by
  simp only [text, cons, List.flatMap_cons, List.append_assoc]

/-- A writing holds no token, or a token before a shorter writing. -/
theorem cons_induction {P : Writing → Prop} (blank : ∀ gap, P ⟨gap, []⟩)
    (cons : ∀ gap t w, P w → P (cons gap t w)) (w : Writing) : P w := by
  obtain ⟨lead, pieces⟩ := w
  induction pieces generalizing lead with
  | nil => exact blank lead
  | cons p pieces ih => exact cons lead p.1 ⟨p.2, pieces⟩ (ih p.2)

end Writing

theorem isLayout_iff (c : Char) : isLayout c = true ↔ c ∈ [' ', '\t', '\n', '\r'] := by
  simp only [isLayout, Bool.or_eq_true, beq_iff_eq, List.mem_cons, List.not_mem_nil, or_false,
    or_assoc]

theorem isGap_iff (run : List Char) : IsGap run ↔ ∀ c ∈ run, isLayout c = true := by
  simp only [IsGap, isLayout_iff]

/-! ## Where words end -/

theorem breaks_lexeme_iff {t : Token} (ht : Lexeme t) (rest : List Char) :
    Breaks (t.text.toList ++ rest) ↔ isParen t = true := by
  cases hp : isParen t with
  | false =>
    obtain ⟨hne, hall, -⟩ := run_of_lexeme ht hp
    obtain ⟨c, run, hrun⟩ := List.exists_cons_of_ne_nil hne
    have hc : isWordChar c = true := hall c (hrun ▸ List.mem_cons_self)
    rw [hrun, List.cons_append]
    exact ⟨fun h => by rw [← hc, h c rfl], fun h => by cases h⟩
  | true =>
    refine iff_of_true ?_ rfl
    rcases eq_of_isParen hp with rfl | rfl
    · rintro c ⟨⟩
      rfl
    · rintro c ⟨⟩
      rfl

/-- A writing breaks a word before it by layout or by a parenthesis. -/
theorem breaks_text_iff {w : Writing} (hlead : IsGap w.lead) (hlex : ∀ t ∈ w.tokens, Lexeme t) :
    Breaks w.text ↔ (w.lead = [] → ∀ t ∈ w.tokens.head?, isParen t = true) := by
  rcases w with ⟨_ | ⟨c, lead⟩, pieces⟩
  · rcases pieces with _ | ⟨⟨t, gap⟩, pieces⟩
    · exact iff_of_true (fun c hc => by cases hc) (fun _ t ht => by cases ht)
    · have ht : Lexeme t := hlex t List.mem_cons_self
      have hbreaks := breaks_lexeme_iff ht (Writing.text ⟨gap, pieces⟩)
      rw [← List.nil_append (t.text.toList ++ _), ← Writing.text_cons] at hbreaks
      exact hbreaks.trans ⟨fun h _ u hu => Option.some.inj hu ▸ h, fun h => h rfl t rfl⟩
  · have hc : isLayout c = true := (isLayout_iff c).mpr (hlead c List.mem_cons_self)
    exact iff_of_true (breaks_layout hc _) (fun he => by cases he)

/-- A token may be written before others unless it makes one word with what follows. -/
theorem proper_cons_iff {gap : List Char} {t : Token} {w : Writing}
    (hlex : ∀ u ∈ w.tokens, Lexeme u) : (Writing.cons gap t w).Proper ↔
      IsGap gap ∧ w.Proper ∧ (isParen t = false → Breaks w.text) := by
  have hhead : (∀ q ∈ w.pieces.head?, isParen t = false → isParen q.1 = false → w.lead ≠ []) ↔
      (isParen t = false → w.lead = [] → ∀ u ∈ w.tokens.head?, isParen u = true) := by
    rw [Writing.tokens, List.head?_map]
    cases w.pieces.head? with
    | none => simp
    | some q =>
      simp only [Option.mem_some_iff, Option.map_some, forall_eq']
      grind
  constructor
  · intro h
    obtain ⟨hnext, hapart⟩ := List.isChain_cons.mp h.apart
    have hw : w.Proper :=
      ⟨h.gaps (t, w.lead) List.mem_cons_self, fun p hp => h.gaps p (List.mem_cons_of_mem _ hp), hapart⟩
    refine ⟨h.lead, hw, fun hp => ?_⟩
    rw [breaks_text_iff hw.lead hlex]
    exact hhead.mp hnext hp
  · rintro ⟨hgap, hw, hbreaks⟩
    refine ⟨hgap, ?_, List.isChain_cons.mpr ⟨?_, hw.apart⟩⟩
    · intro p hp
      rcases List.mem_cons.mp hp with rfl | hp
      · exact hw.lead
      · exact hw.gaps p hp
    · exact hhead.mpr fun hp => (breaks_text_iff hw.lead hlex).mp (hbreaks hp)

/-! ## Lexing a writing -/

/-- A proper writing is cut into its tokens. -/
theorem tokensOf_text {w : Writing} (hw : w.Proper) (hlex : ∀ t ∈ w.tokens, Lexeme t) :
    tokensOf w.text = w.tokens := by
  induction w using Writing.cons_induction with
  | blank gap =>
    have htext : Writing.text ⟨gap, []⟩ = gap := List.append_nil gap
    rw [htext]
    exact tokensOf_blank ((isGap_iff gap).mp hw.lead)
  | cons gap t w ih =>
    obtain ⟨ht, hrest⟩ := List.forall_mem_cons.mp hlex
    obtain ⟨hgap, hw', hbreaks⟩ := (proper_cons_iff hrest).mp hw
    rw [Writing.text_cons, tokensOf_lexeme ((isGap_iff gap).mp hgap) ht hbreaks, ih hw' hrest,
      Writing.tokens_cons]

/-- Tokens that the lexer can produce are the tokens of some query: of the one with a space after each. -/
theorem exists_query {tokens : List Token} (hlex : ∀ t ∈ tokens, Lexeme t) :
    ∃ query : String, tokenize query = tokens := by
  let w : Writing := ⟨[], tokens.map fun t => (t, [' '])⟩
  have htokens : w.tokens = tokens := by simp [w, Writing.tokens, Function.comp_def]
  have hw : w.Proper := by
    refine ⟨by simp [w, IsGap], by simp [w, IsGap], ?_⟩
    rw [List.isChain_map]
    exact (List.pairwise_of_forall fun _ _ _ _ => List.cons_ne_nil _ _).isChain
  refine ⟨String.ofList w.text, ?_⟩
  rw [tokenize, String.toList_ofList, tokensOf_text hw (htokens ▸ hlex), htokens]

/-- Every text is a proper writing of its tokens. -/
theorem exists_writing (text : List Char) :
    ∃ w : Writing, w.Proper ∧ w.tokens = tokensOf text ∧ w.text = text := by
  induction text using lexeme_induction with
  | layout blank hb =>
    refine ⟨⟨blank, []⟩, ⟨(isGap_iff blank).mpr hb, ?_, .nil⟩, ?_, List.append_nil blank⟩
    · intro p hp
      cases hp
    · rw [tokensOf_blank hb]
      rfl
  | token blank t rest hb ht hbreaks ih =>
    -- what stands between the token and the next one is the lead of the writing of the rest
    obtain ⟨w, hw, htokens, rfl⟩ := ih
    have hlex : ∀ u ∈ w.tokens, Lexeme u := fun u hu => lexeme_of_mem_tokensOf (htokens ▸ hu)
    refine ⟨.cons blank t w, (proper_cons_iff hlex).mpr ⟨(isGap_iff blank).mpr hb, hw, hbreaks⟩, ?_,
      Writing.text_cons blank t w⟩
    rw [tokensOf_lexeme hb ht hbreaks, Writing.tokens_cons, htokens]

theorem not_isLayout_of_mem_text {t : Token} (ht : Lexeme t) {c : Char} (hc : c ∈ t.text.toList) :
    isLayout c = false := by
  cases hp : isParen t with
  | false =>
    obtain ⟨-, hall, -⟩ := run_of_lexeme ht hp
    exact not_isLayout_of_isWordChar (hall c hc)
  | true =>
    rcases eq_of_isParen hp with rfl | rfl
    · rw [List.mem_singleton.mp hc]
      rfl
    · rw [List.mem_singleton.mp hc]
      rfl

/-- Nothing but layout is dropped between tokens. -/
theorem flatMap_text_tokensOf (text : List Char) :
    (tokensOf text).flatMap (fun t => t.text.toList) = text.filter (fun c => !isLayout c) := by
  have hblank : ∀ blank : List Char, (∀ c ∈ blank, isLayout c = true) →
      blank.filter (fun c => !isLayout c) = [] :=
    fun blank hb => List.filter_eq_nil_iff.mpr fun c hc => by simp [hb c hc]
  induction text using lexeme_induction with
  | layout blank hb =>
    rw [tokensOf_blank hb, hblank blank hb]
    rfl
  | token blank t rest hb ht hbreaks ih =>
    have htext : t.text.toList.filter (fun c => !isLayout c) = t.text.toList :=
      List.filter_eq_self.mpr fun c hc => by simp [not_isLayout_of_mem_text ht hc]
    rw [tokensOf_lexeme hb ht hbreaks, List.flatMap_cons, ih, List.filter_append, List.filter_append,
      hblank blank hb, htext, List.nil_append]

/-- The tokens of a query are those that a proper writing of it shows, if each of them is one that the
lexer can produce. Written one after another they are the query without its layout, and from any proper
writing of them they are read back. -/
theorem tokenize_eq_iff :
    (∀ (query : String) (tokens : List Token), tokenize query = tokens ↔
      (∀ t ∈ tokens, Lexeme t) ∧ ∃ w : Writing, w.Proper ∧ w.tokens = tokens ∧ w.text = query.toList) ∧
    (∀ query : String, (tokenize query).flatMap (fun t => t.text.toList) =
      query.toList.filter (fun c => decide (c ∉ [' ', '\t', '\n', '\r']))) ∧
    ∀ w : Writing, w.Proper → (∀ t ∈ w.tokens, Lexeme t) →
      tokenize (String.ofList w.text) = w.tokens := by
  refine ⟨fun query tokens => ⟨?_, ?_⟩, fun query => ?_, fun w hw hlex => ?_⟩
  · rintro rfl
    exact ⟨fun t ht => lexeme_of_mem_tokensOf ht, exists_writing query.toList⟩
  · rintro ⟨hlex, w, hw, rfl, htext⟩
    rw [tokenize, ← htext]
    exact tokensOf_text hw hlex
  · rw [tokenize, flatMap_text_tokensOf]
    congr 1
    funext c
    rw [Bool.eq_iff_iff, Bool.not_eq_true', decide_eq_true_eq, ← isLayout_iff, Bool.not_eq_true]
  · rw [tokenize, String.toList_ofList]
    exact tokensOf_text hw hlex

/-- Parentheses glued to keywords and words, and a word that looks like a keyword. -/
theorem tokenize_gluedWriting :
    let w : Writing := ⟨['\t'], [(.not, []), (.openParen, []), (.word "año", [' ', '\n']),
      (.closeParen, []), (.or, ['\r']), (.word "and", [])]⟩
    w.Proper ∧ (∀ t ∈ w.tokens, Lexeme t) ∧ tokenize "\tNOT(año \n)OR\rand" =
      [.not, .openParen, .word "año", .closeParen, .or, .word "and"] := by
  intro w
  have hw : w.Proper := ⟨by simp [w, IsGap], by simp [w, IsGap], by simp [w, isParen]⟩
  have hlex : ∀ t ∈ w.tokens, Lexeme t := by
    have hwords : PlainWord "año" ∧ PlainWord "and" :=
      ⟨plainWord_of_all (by decide) (by decide) (by decide),
        plainWord_of_all (by decide) (by decide) (by decide)⟩
    simp [w, Writing.tokens, Lexeme, hwords]
  exact ⟨hw, hlex, tokenize_eq_iff.2.2 w hw hlex⟩

end Concordance.Proofs.Query.Spacing
