import Mathlib.Data.List.TakeWhile
import Concordance.Query.Lexer

/-!
# What the lexer reads

A token is read off a text exactly when the text is layout, then the characters of the token, then the
rest, provided that the rest does not go on with a word that the token is the beginning of. Parentheses
end by themselves and need no such proviso.
-/
namespace Concordance.Proofs.Query.Lexing

open Concordance.Query

/-- The words a query can name: runs of characters other than layout and parentheses that are no
keyword. -/
structure PlainWord (w : String) : Prop where
  nonempty : w ≠ ""
  clean : ∀ c ∈ w.toList, c ∉ [' ', '\t', '\n', '\r', '(', ')']
  notKeyword : w ∉ ["AND", "OR", "NOT"]

def Lexeme : Token → Prop
  | .word w => PlainWord w
  | _ => True

/-- Tokens that end by themselves. All others are runs of word characters. -/
def isParen : Token → Bool
  | .openParen | .closeParen => true
  | _ => false

def Breaks (rest : List Char) : Prop :=
  ∀ c ∈ rest.head?, isWordChar c = false

/-- What is left after skipping some characters begins with none of them. -/
theorem eq_false_of_mem_head?_dropWhile {p : Char → Bool} {text : List Char} {c : Char}
    (h : c ∈ (text.dropWhile p).head?) : p c = false := by
  have hnot := List.head?_dropWhile_not p text
  rwa [Option.mem_def.mp h] at hnot

theorem breaks_dropWhile (text : List Char) : Breaks (text.dropWhile isWordChar) :=
  fun _ => eq_false_of_mem_head?_dropWhile

theorem eq_of_isParen {t : Token} (h : isParen t = true) : t = .openParen ∨ t = .closeParen := by
  cases t with
  | openParen => exact Or.inl rfl
  | closeParen => exact Or.inr rfl
  | word w => cases h
  | and => cases h
  | or => cases h
  | not => cases h

theorem isWordChar_iff (c : Char) :
    isWordChar c = true ↔ c ∉ [' ', '\t', '\n', '\r', '(', ')'] := by
  simp only [isWordChar, isLayout, Bool.and_eq_true, Bool.not_eq_true', Bool.or_eq_false_iff,
    beq_eq_false_iff_ne, bne_iff_ne, List.mem_cons, List.not_mem_nil, or_false, not_or, ne_eq,
    and_assoc]

theorem plainWord_of_all {w : String} (hne : w ≠ "") (hall : w.toList.all isWordChar = true)
    (hk : w ∉ ["AND", "OR", "NOT"]) : PlainWord w :=
  ⟨hne, fun c hc => (isWordChar_iff c).mp (List.all_eq_true.mp hall c hc), hk⟩

theorem not_isLayout_of_isWordChar {c : Char} (h : isWordChar c = true) : isLayout c = false := by
  simp only [isWordChar, Bool.and_eq_true, Bool.not_eq_true'] at h
  exact h.1.1

theorem isWordChar_of_not {c : Char} (hl : isLayout c = false) (ho : c ≠ '(') (hc : c ≠ ')') :
    isWordChar c = true := by
  simp [isWordChar, hl, ho, hc]

/-! ## Runs -/

theorem ofRun_word {w : String} (h : w ∉ ["AND", "OR", "NOT"]) :
    Token.ofRun w.toList = .word w := by
  have hk : ∀ k ∈ ["AND", "OR", "NOT"], w.toList ≠ k.toList := fun k hk he =>
    h (String.toList_injective he ▸ hk)
  have hand : w.toList ≠ ['A', 'N', 'D'] := hk "AND" (by simp)
  have hor : w.toList ≠ ['O', 'R'] := hk "OR" (by simp)
  have hnot : w.toList ≠ ['N', 'O', 'T'] := hk "NOT" (by simp)
  rw [Token.ofRun, if_neg hand, if_neg hor, if_neg hnot, String.ofList_toList]

/-- A token that is no parenthesis is the run of its characters. -/
theorem run_of_lexeme {t : Token} (ht : Lexeme t) (hp : isParen t = false) :
    t.text.toList ≠ [] ∧ (∀ c ∈ t.text.toList, isWordChar c = true) ∧
      Token.ofRun t.text.toList = t := by
  cases t with
  | word w =>
    have hne : w.toList ≠ [] := fun he => ht.nonempty (String.toList_eq_nil_iff.mp he)
    exact ⟨hne, fun c hc => (isWordChar_iff c).mpr (ht.clean c hc), ofRun_word ht.notKeyword⟩
  | and => exact ⟨by decide, List.all_eq_true.mp rfl, rfl⟩
  | or => exact ⟨by decide, List.all_eq_true.mp rfl, rfl⟩
  | not => exact ⟨by decide, List.all_eq_true.mp rfl, rfl⟩
  | openParen => cases hp
  | closeParen => cases hp

/-- A run of word characters is a token the lexer can produce. -/
theorem lexeme_ofRun {run : List Char} (hne : run ≠ []) (hall : ∀ c ∈ run, isWordChar c = true) :
    Lexeme (Token.ofRun run) ∧ isParen (Token.ofRun run) = false ∧
      (Token.ofRun run).text.toList = run := by
  rw [Token.ofRun]
  split
  · rename_i h
    exact ⟨trivial, rfl, h.symm⟩
  split
  · rename_i h
    exact ⟨trivial, rfl, h.symm⟩
  split
  · rename_i h
    exact ⟨trivial, rfl, h.symm⟩
  rename_i hand hor hnot
  refine ⟨⟨?_, ?_, ?_⟩, rfl, String.toList_ofList⟩
  · intro he
    exact hne (by rw [← @String.toList_ofList run, he]; rfl)
  · intro c hc
    rw [String.toList_ofList] at hc
    exact (isWordChar_iff c).mp (hall c hc)
  · intro hk
    have hk' : run ∈ ["AND", "OR", "NOT"].map String.toList := by
      rw [← @String.toList_ofList run]
      exact List.mem_map_of_mem hk
    rcases List.mem_cons.mp hk' with h | hk'
    · exact hand h
    rcases List.mem_cons.mp hk' with h | hk'
    · exact hor h
    · exact hnot (List.mem_singleton.mp hk')

/-! ## Reading one token -/

theorem readToken_layout {blank : List Char} (hb : ∀ c ∈ blank, isLayout c = true) (text : List Char) :
    readToken (blank ++ text) = readToken text := by
  rw [readToken, readToken, List.dropWhile_append_of_pos hb]

theorem readToken_run {run rest : List Char} (hne : run ≠ [])
    (hall : ∀ c ∈ run, isWordChar c = true) (hrest : Breaks rest) :
    readToken (run ++ rest) = some (.ofRun run, rest) := by
  have htake : rest.takeWhile isWordChar = [] := by
    cases rest with
    | nil => rfl
    | cons c r => exact List.takeWhile_cons_of_neg (by simp [hrest c rfl])
  have hdrop : rest.dropWhile isWordChar = rest := by
    cases rest with
    | nil => rfl
    | cons c r => exact List.dropWhile_cons_of_neg (by simp [hrest c rfl])
  obtain ⟨c, r, rfl⟩ := List.exists_cons_of_ne_nil hne
  have hc : isWordChar c = true := hall c List.mem_cons_self
  have hr : ∀ d ∈ r, isWordChar d = true := fun d hd => hall d (List.mem_cons_of_mem c hd)
  have hlayout : ¬ isLayout c = true := by simp [not_isLayout_of_isWordChar hc]
  rw [readToken, List.cons_append, List.dropWhile_cons_of_neg hlayout]
  split
  · rename_i h
    cases h
  · rename_i h
    obtain ⟨rfl, -⟩ := List.cons.inj h
    exact absurd hc (by decide)
  · rename_i h
    obtain ⟨rfl, -⟩ := List.cons.inj h
    exact absurd hc (by decide)
  · rename_i h
    obtain ⟨rfl, rfl⟩ := List.cons.inj h
    rw [List.takeWhile_append_of_pos hr, List.dropWhile_append_of_pos hr, htake, hdrop,
      List.append_nil]

/-- Layout, a token, and a rest that does not prolong it: the token is read and the rest is left. -/
theorem readToken_lexeme {blank rest : List Char} {t : Token}
    (hb : ∀ c ∈ blank, isLayout c = true) (ht : Lexeme t) (hrest : isParen t = false → Breaks rest) :
    readToken (blank ++ (t.text.toList ++ rest)) = some (t, rest) := by
  rw [readToken_layout hb]
  cases hp : isParen t with
  | false =>
    obtain ⟨hne, hall, hrun⟩ := run_of_lexeme ht hp
    rw [readToken_run hne hall (hrest hp), hrun]
  | true =>
    rcases eq_of_isParen hp with rfl | rfl
    · rfl
    · rfl

/-- A token that is read stands in the text as it should: nothing but layout is skipped before it, and
it is as long as it can be. -/
theorem lexeme_of_readToken {text rest : List Char} {t : Token}
    (h : readToken text = some (t, rest)) :
    ∃ blank, (∀ c ∈ blank, isLayout c = true) ∧ text = blank ++ (t.text.toList ++ rest) ∧
      Lexeme t ∧ (isParen t = false → Breaks rest) := by
  refine ⟨text.takeWhile isLayout, fun c hc => List.mem_takeWhile_imp hc, ?_⟩
  have hsplit : text = text.takeWhile isLayout ++ text.dropWhile isLayout :=
    List.takeWhile_append_dropWhile.symm
  have hhead := List.head?_dropWhile_not isLayout text
  rw [readToken] at h
  split at h
  · cases h
  · rename_i r hd
    obtain ⟨rfl, rfl⟩ := Prod.mk.inj (Option.some.inj h)
    rw [hd] at hsplit
    exact ⟨hsplit, trivial, fun hp => by cases hp⟩
  · rename_i r hd
    obtain ⟨rfl, rfl⟩ := Prod.mk.inj (Option.some.inj h)
    rw [hd] at hsplit
    exact ⟨hsplit, trivial, fun hp => by cases hp⟩
  · rename_i c r ho hc hd
    obtain ⟨rfl, rfl⟩ := Prod.mk.inj (Option.some.inj h)
    rw [hd] at hsplit hhead
    have hword : isWordChar c = true := isWordChar_of_not hhead ho hc
    have hall : ∀ d ∈ c :: r.takeWhile isWordChar, isWordChar d = true := by
      intro d hd'
      rcases List.mem_cons.mp hd' with rfl | hd'
      · exact hword
      · exact List.mem_takeWhile_imp hd'
    obtain ⟨hlex, -, htext⟩ := lexeme_ofRun (List.cons_ne_nil _ _) hall
    refine ⟨?_, hlex, fun _ => breaks_dropWhile r⟩
    rw [htext, List.cons_append, List.takeWhile_append_dropWhile]
    exact hsplit

/-- No token is read only where nothing but layout is left. -/
theorem readToken_eq_none_iff (text : List Char) :
    readToken text = none ↔ ∀ c ∈ text, isLayout c = true := by
  rw [← List.dropWhile_eq_nil_iff, readToken]
  split
  · rename_i h
    simp only [h]
  · rename_i h
    simp [h]
  · rename_i h
    simp [h]
  · rename_i h
    simp [h]

/-! ## Reading all tokens -/

theorem tokensOf_eq (text : List Char) : tokensOf text =
    match readToken text with
    | none => []
    | some (t, rest) => t :: tokensOf rest := by
  rw [tokensOf]
  split <;> simp_all

theorem tokensOf_layout {blank : List Char} (hb : ∀ c ∈ blank, isLayout c = true) (text : List Char) :
    tokensOf (blank ++ text) = tokensOf text := by
  rw [tokensOf_eq, tokensOf_eq text, readToken_layout hb]

theorem tokensOf_lexeme {blank rest : List Char} {t : Token}
    (hb : ∀ c ∈ blank, isLayout c = true) (ht : Lexeme t) (hrest : isParen t = false → Breaks rest) :
    tokensOf (blank ++ (t.text.toList ++ rest)) = t :: tokensOf rest := by
  rw [tokensOf_eq, readToken_lexeme hb ht hrest]

/-- Every text is layout, or layout before a token and a rest that does not prolong it. -/
theorem lexeme_induction {P : List Char → Prop}
    (layout : ∀ blank, (∀ c ∈ blank, isLayout c = true) → P blank)
    (token : ∀ blank t rest, (∀ c ∈ blank, isLayout c = true) → Lexeme t →
      (isParen t = false → Breaks rest) → P rest → P (blank ++ (t.text.toList ++ rest)))
    (text : List Char) : P text := by
  induction hn : text.length using Nat.strongRecOn generalizing text with
  | ind n ih =>
    cases hr : readToken text with
    | none => exact layout text ((readToken_eq_none_iff text).mp hr)
    | some p =>
      obtain ⟨t, rest⟩ := p
      have hrest : P rest := ih rest.length (hn ▸ readToken_length hr) rest rfl
      obtain ⟨blank, hb, rfl, ht, hbreaks⟩ := lexeme_of_readToken hr
      exact token blank t rest hb ht hbreaks hrest

theorem tokensOf_blank {blank : List Char} (hb : ∀ c ∈ blank, isLayout c = true) :
    tokensOf blank = [] := by
  rw [tokensOf_eq, (readToken_eq_none_iff blank).mpr hb]

theorem tokensOf_nil : tokensOf [] = [] :=
  @tokensOf_blank [] (fun c hc => by cases hc)

theorem tokensOf_eq_nil_iff (text : List Char) :
    tokensOf text = [] ↔ ∀ c ∈ text, isLayout c = true := by
  rw [← readToken_eq_none_iff, tokensOf_eq]
  split
  · rename_i h
    exact iff_of_true rfl h
  · rename_i h
    simp [h]

/-- All tokens of a text are such as the lexer can produce. -/
theorem lexeme_of_mem_tokensOf {text : List Char} {t : Token} (h : t ∈ tokensOf text) : Lexeme t := by
  induction text using lexeme_induction with
  | layout blank hb =>
    rw [tokensOf_blank hb] at h
    cases h
  | token blank t' rest hb ht hbreaks ih =>
    rw [tokensOf_lexeme hb ht hbreaks] at h
    rcases List.mem_cons.mp h with rfl | h
    · exact ht
    · exact ih h

theorem Breaks.append {rest more : List Char} (h : Breaks rest) (hmore : Breaks more) :
    Breaks (rest ++ more) := by
  cases rest with
  | nil => exact hmore
  | cons c rest => exact h

/-- A text is cut into tokens apart from what follows it, unless a word goes on there. -/
theorem tokensOf_append {rest : List Char} (h : Breaks rest) (text : List Char) :
    tokensOf (text ++ rest) = tokensOf text ++ tokensOf rest := by
  induction text using lexeme_induction with
  | layout blank hb => rw [tokensOf_layout hb, tokensOf_blank hb, List.nil_append]
  | token blank t mid hb ht hbreaks ih =>
    rw [tokensOf_lexeme hb ht hbreaks, List.append_assoc, List.append_assoc,
      tokensOf_lexeme hb ht (fun hp => (hbreaks hp).append h), ih, List.cons_append]

/-! ## Spaces and parentheses between texts -/

theorem breaks_layout {c : Char} (hc : isLayout c = true) (rest : List Char) :
    Breaks (c :: rest) := by
  rintro d ⟨⟩
  simp [isWordChar, hc]

/-- Layout after a text makes no token and prolongs none. -/
theorem tokensOf_append_layout (text : List Char) {blank : List Char}
    (hb : ∀ c ∈ blank, isLayout c = true) : tokensOf (text ++ blank) = tokensOf text := by
  have hbreaks : Breaks blank := by
    cases blank with
    | nil => exact fun c hc => by cases hc
    | cons c blank => exact breaks_layout (hb c List.mem_cons_self) blank
  rw [tokensOf_append hbreaks, tokensOf_blank hb, List.append_nil]

theorem breaks_space (rest : List Char) : Breaks (' ' :: rest) :=
  breaks_layout rfl rest

theorem breaks_close (rest : List Char) : Breaks (')' :: rest) := by
  rintro c ⟨⟩
  rfl

theorem tokensOf_space (rest : List Char) : tokensOf (' ' :: rest) = tokensOf rest :=
  @tokensOf_layout [' '] (List.all_eq_true.mp rfl) rest

/-- A token is read off the front of a text that it stands at. -/
theorem tokensOf_cons {t : Token} (ht : Lexeme t) {rest : List Char}
    (hrest : isParen t = false → Breaks rest) :
    tokensOf (t.text.toList ++ rest) = t :: tokensOf rest :=
  @tokensOf_lexeme [] rest t (by simp) ht hrest

theorem tokensOf_open (rest : List Char) : tokensOf ('(' :: rest) = .openParen :: tokensOf rest :=
  @tokensOf_cons .openParen trivial rest (fun hp => by cases hp)

theorem tokensOf_close (rest : List Char) : tokensOf (')' :: rest) = .closeParen :: tokensOf rest :=
  @tokensOf_cons .closeParen trivial rest (fun hp => by cases hp)

/-- A text in parentheses is cut inside them as it is cut on its own. -/
theorem tokensOf_group (text : List Char) :
    tokensOf ('(' :: (text ++ [')'])) = .openParen :: (tokensOf text ++ [.closeParen]) := by
  rw [tokensOf_open, tokensOf_append (breaks_close []), tokensOf_close, tokensOf_nil]

theorem tokensOf_not_group (text : List Char) :
    tokensOf (Token.not.text.toList ++ ' ' :: '(' :: (text ++ [')'])) =
      .not :: .openParen :: (tokensOf text ++ [.closeParen]) := by
  rw [@tokensOf_cons .not trivial _ (fun _ => breaks_space _), tokensOf_space, tokensOf_group]

/-- A token between spaces separates the tokens of the two texts around it. -/
theorem tokensOf_between {t : Token} (ht : Lexeme t) (left right : List Char) :
    tokensOf (left ++ ' ' :: (t.text.toList ++ ' ' :: right)) =
      tokensOf left ++ t :: tokensOf right := by
  rw [tokensOf_append (breaks_space _), tokensOf_space, tokensOf_cons ht (fun _ => breaks_space _),
    tokensOf_space]

end Concordance.Proofs.Query.Lexing
