import Concordance.Proofs.Query.Lexing

/-!
# Reading by bytes

A place in a query is a number of bytes, and a slice of the query from there or up to there exists only if
no character is cut in two. `readAt?` reads a token by such slices alone, and gives nothing when one of
them does not exist. Between the characters of a query it always finds a token or the end, the same as
`Lexer.fill` does on the characters themselves, and stops between two characters again.
-/
namespace Concordance.Proofs.Query.Slicing

open Concordance.Query Lexing

/-! ## Bytes of characters -/

theorem utf8Length_cons (c : Char) (text : List Char) :
    utf8Length (c :: text) = c.utf8Size + utf8Length text := rfl

theorem utf8Length_append (front rest : List Char) :
    utf8Length (front ++ rest) = utf8Length front + utf8Length rest := by
  induction front with
  | nil => exact (Nat.zero_add _).symm
  | cons c front ih => rw [List.cons_append, utf8Length_cons, utf8Length_cons, ih, Nat.add_assoc]

theorem utf8Length_pos {text : List Char} (h : text ≠ []) : 0 < utf8Length text := by
  obtain ⟨c, rest, rfl⟩ := List.exists_cons_of_ne_nil h
  exact Nat.lt_of_lt_of_le c.utf8Size_pos (Nat.le_add_right _ _)

theorem utf8Length_eq (text : List Char) : utf8Length text = (String.ofList text).utf8ByteSize := by
  induction text with
  | nil => rfl
  | cons c text ih =>
    rw [utf8Length_cons, ih, ← List.singleton_append, String.ofList_append, String.utf8ByteSize_append,
      ← String.singleton_eq_ofList, String.utf8ByteSize_singleton]

/-- Between two parts of a text there is a place. -/
theorem isValid_utf8Length (front rest : List Char) :
    String.Pos.Raw.IsValid (String.ofList (front ++ rest)) ⟨utf8Length front⟩ := by
  rw [String.Pos.Raw.isValid_iff_exists_append]
  refine ⟨String.ofList front, String.ofList rest, String.ofList_append, ?_⟩
  rw [utf8Length_eq]
  rfl

/-! ## Slices -/

/-- The text from a byte on, if a character begins there or the text ends there. -/
def sliceFrom? (text : String) (byte : Nat) : Option String :=
  if h : String.Pos.Raw.IsValid text ⟨byte⟩ then some (text.sliceFrom (text.pos ⟨byte⟩ h)).copy else none

def sliceTo? (text : String) (byte : Nat) : Option String :=
  if h : String.Pos.Raw.IsValid text ⟨byte⟩ then some (text.sliceTo (text.pos ⟨byte⟩ h)).copy else none

theorem splits_utf8Length (front rest : List Char) :
    (String.pos (String.ofList (front ++ rest)) ⟨utf8Length front⟩ (isValid_utf8Length front rest)).Splits
      (String.ofList front) (String.ofList rest) where
  eq_append := String.ofList_append
  offset_eq_rawEndPos := by
    rw [String.offset_pos, utf8Length_eq]
    rfl

theorem sliceFrom?_utf8Length (front rest : List Char) :
    sliceFrom? (String.ofList (front ++ rest)) (utf8Length front) = some (String.ofList rest) := by
  rw [sliceFrom?, dif_pos (isValid_utf8Length front rest), (splits_utf8Length front rest).copy_sliceFrom_eq]

theorem sliceTo?_utf8Length (front rest : List Char) :
    sliceTo? (String.ofList (front ++ rest)) (utf8Length front) = some (String.ofList front) := by
  rw [sliceTo?, dif_pos (isValid_utf8Length front rest), (splits_utf8Length front rest).copy_sliceTo_eq]

/-! ## One token -/

/-- The token that begins at a byte of a query, or its end, and the byte behind that: a parenthesis is one
byte long, and a word goes on to the next character that is none of its own. -/
def tokenAt? (query : String) (start : Nat) : Option (Option Token × Nat) := do
  let text ← sliceFrom? query start
  match text.toList with
  | [] => return (none, start)
  | '(' :: _ => return (some .openParen, start + 1)
  | ')' :: _ => return (some .closeParen, start + 1)
  | word =>
    let length := utf8Length (word.takeWhile isWordChar)
    let run ← sliceTo? text length
    return (some (.ofRun run.toList), start + length)

def readAt? (query : String) (position : Nat) : Option (Option Token × Nat) := do
  let text ← sliceFrom? query position
  tokenAt? query (position + utf8Length (text.toList.takeWhile isLayout))

theorem utf8Length_lt_of_readToken {text rest : List Char} {t : Token}
    (h : readToken text = some (t, rest)) : utf8Length rest < utf8Length text := by
  obtain ⟨blank, -, rfl, ht, -⟩ := lexeme_of_readToken h
  rw [utf8Length_append, utf8Length_append]
  have htext : t.text.toList ≠ [] := by
    cases hp : isParen t with
    | false => exact (run_of_lexeme ht hp).1
    | true => rcases eq_of_isParen hp with rfl | rfl <;> decide
  have := utf8Length_pos htext
  omega

theorem fill_of_readToken {taken rest : List Char} {t : Token}
    (h : readToken (taken ++ rest) = some (t, rest)) (position : Nat) :
    Lexer.fill (taken ++ rest) position = ⟨rest, position + utf8Length taken, some t⟩ := by
  rw [Lexer.fill, h, utf8Length_append]
  dsimp only
  rw [Nat.add_sub_cancel]

/-- Layout is passed without being part of a token. -/
theorem fill_layout {blank : List Char} (hb : ∀ c ∈ blank, isLayout c = true) (rest : List Char)
    (position : Nat) :
    Lexer.fill (blank ++ rest) position = Lexer.fill rest (position + utf8Length blank) := by
  rw [Lexer.fill, Lexer.fill, readToken_layout hb, utf8Length_append]
  cases hr : readToken rest with
  | none => simp only [Nat.add_assoc]
  | some p =>
    obtain ⟨t, rest'⟩ := p
    have hlt := utf8Length_lt_of_readToken hr
    simp only [Lexer.mk.injEq, true_and, and_true]
    omega

theorem readToken_word {text : List Char} (h : text.takeWhile isWordChar ≠ []) :
    readToken (text.takeWhile isWordChar ++ text.dropWhile isWordChar) =
      some (.ofRun (text.takeWhile isWordChar), text.dropWhile isWordChar) :=
  readToken_run h (fun _ hc => List.mem_takeWhile_imp hc) (breaks_dropWhile text)

theorem tokenAt?_utf8Length (front : List Char) {rest : List Char}
    (hrest : ∀ c ∈ rest.head?, isLayout c = false) :
    tokenAt? (String.ofList (front ++ rest)) (utf8Length front) =
      some ((Lexer.fill rest (utf8Length front)).lookahead, (Lexer.fill rest (utf8Length front)).position) := by
  rw [tokenAt?, sliceFrom?_utf8Length]
  simp only [Option.bind_eq_bind, Option.bind_some, String.toList_ofList]
  split
  · rfl
  · rename_i tail
    have hfill : Lexer.fill ('(' :: tail) (utf8Length front) = _ :=
      @fill_of_readToken ['('] tail .openParen rfl _
    rw [hfill]
    rfl
  · rename_i tail
    have hfill : Lexer.fill (')' :: tail) (utf8Length front) = _ :=
      @fill_of_readToken [')'] tail .closeParen rfl _
    rw [hfill]
    rfl
  · rename_i hnil hopen hclose
    obtain ⟨c, tail, rfl⟩ := List.exists_cons_of_ne_nil hnil
    have hword : isWordChar c = true := isWordChar_of_not (hrest c rfl)
      (fun he => hopen tail (by rw [he])) (fun he => hclose tail (by rw [he]))
    have hread := @readToken_word (c :: tail) (by simp [hword])
    have hfill := fill_of_readToken hread (utf8Length front)
    have hslice := sliceTo?_utf8Length ((c :: tail).takeWhile isWordChar) ((c :: tail).dropWhile isWordChar)
    rw [List.takeWhile_append_dropWhile] at hfill hslice
    rw [hfill, hslice, Option.bind_some, String.toList_ofList]
    rfl

/-- Between two parts of a query, no slice fails, and what is read is what the lexer reads there. -/
theorem readAt?_utf8Length (front rest : List Char) :
    readAt? (String.ofList (front ++ rest)) (utf8Length front) =
      some ((Lexer.fill rest (utf8Length front)).lookahead, (Lexer.fill rest (utf8Length front)).position) := by
  have hblank : ∀ c ∈ rest.takeWhile isLayout, isLayout c = true := fun c hc => List.mem_takeWhile_imp hc
  have hhead : ∀ c ∈ (rest.dropWhile isLayout).head?, isLayout c = false :=
    fun _ => eq_false_of_mem_head?_dropWhile
  have htoken := tokenAt?_utf8Length (front ++ rest.takeWhile isLayout) hhead
  rw [utf8Length_append, List.append_assoc, List.takeWhile_append_dropWhile, ← fill_layout hblank,
    List.takeWhile_append_dropWhile] at htoken
  rw [readAt?, sliceFrom?_utf8Length]
  simp only [Option.bind_eq_bind, Option.bind_some, String.toList_ofList]
  exact htoken

end Concordance.Proofs.Query.Slicing
