import Concordance.Query.Token

/-!
Splitting a query into tokens.

`readToken` takes one token off the front of the text, `tokenize` repeats it to the end, and `Lexer` is
the same reading done step by step with one token of lookahead and a byte position. Every token read
leaves a shorter text (`readToken_length`), which is why the reading ends.
-/
namespace Concordance.Query

/-- Layout between tokens: space, tab, line feed and carriage return, and no other blank. -/
def isLayout (c : Char) : Bool :=
  c == ' ' || c == '\t' || c == '\n' || c == '\r'

/-- Characters a word is made of: all but layout and parentheses. -/
def isWordChar (c : Char) : Bool :=
  !isLayout c && c != '(' && c != ')'

/-- The next token and the text after it; nothing when only layout is left. -/
def readToken (text : List Char) : Option (Token × List Char) :=
  match text.dropWhile isLayout with
  | [] => none
  | '(' :: rest => some (.openParen, rest)
  | ')' :: rest => some (.closeParen, rest)
  | c :: rest => some (.ofRun (c :: rest.takeWhile isWordChar), rest.dropWhile isWordChar)

private theorem length_dropWhile_le (p : Char → Bool) (s : List Char) :
    (s.dropWhile p).length ≤ s.length :=
  (List.dropWhile_sublist p).length_le

/-- A token takes at least one character. -/
theorem readToken_length {text rest : List Char} {t : Token} (h : readToken text = some (t, rest)) :
    rest.length < text.length := by
  have hle := length_dropWhile_le isLayout text
  unfold readToken at h
  split at h
  · simp at h
  · rename_i r e
    simp only [Option.some.injEq, Prod.mk.injEq] at h
    rw [e, List.length_cons] at hle
    obtain ⟨-, rfl⟩ := h
    omega
  · rename_i r e
    simp only [Option.some.injEq, Prod.mk.injEq] at h
    rw [e, List.length_cons] at hle
    obtain ⟨-, rfl⟩ := h
    omega
  · rename_i c r _ _ e
    simp only [Option.some.injEq, Prod.mk.injEq] at h
    rw [e, List.length_cons] at hle
    obtain ⟨-, rfl⟩ := h
    have := length_dropWhile_le isWordChar r
    omega

def tokensOf (text : List Char) : List Token :=
  match _h : readToken text with
  | none => []
  | some (t, rest) => t :: tokensOf rest
termination_by text.length
decreasing_by exact readToken_length _h

def tokenize (query : String) : List Token :=
  tokensOf query.toList

/-- Bytes a run of characters takes in UTF-8. -/
def utf8Length (text : List Char) : Nat :=
  text.foldr (fun c length => c.utf8Size + length) 0

/-- A reader of tokens with one token of lookahead, nothing at the end. The rest is the text after that token,
and the position counts the bytes of the query before the rest. -/
structure Lexer where
  rest : List Char
  position : Nat
  lookahead : Option Token
  deriving Repr

namespace Lexer

/-- Fills the lookahead with the next token of `rest`; at the end, the remaining layout is passed. -/
def fill (rest : List Char) (position : Nat) : Lexer :=
  match readToken rest with
  | none => ⟨[], position + utf8Length rest, none⟩
  | some (t, rest') => ⟨rest', position + (utf8Length rest - utf8Length rest'), some t⟩

def start (query : String) : Lexer :=
  fill query.toList 0

/-- The token that comes next, without taking it. -/
def current (lexer : Lexer) : Option Token :=
  lexer.lookahead

/-- Takes the next token. At the end this gives nothing, as often as it is asked. -/
def advance (lexer : Lexer) : Option Token × Lexer :=
  (lexer.lookahead, fill lexer.rest lexer.position)

end Lexer

end Concordance.Query
