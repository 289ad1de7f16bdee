import Concordance.Text.CharSet

/-!
Blanks and the words between them.

A blank is a character with the Unicode property White_Space. The words of a text are its maximal runs
of other characters.
-/
namespace Concordance.Text

/-- The characters with the property White_Space. -/
def blanks : CharSet :=
  ⟨[0x9, 0xE, 0x20, 0x21, 0x85, 0x86, 0xA0, 0xA1, 0x1680, 0x1681, 0x2000, 0x200B, 0x2028, 0x202A,
    0x202F, 0x2030, 0x205F, 0x2060, 0x3000, 0x3001]⟩

def isBlank (c : Char) : Bool :=
  blanks.contains c

def wordsOf (text : List Char) : List (List Char) :=
  (text.splitOnP isBlank).filter (fun run => !run.isEmpty)

def trimmed (text : List Char) : List Char :=
  ((text.dropWhile isBlank).reverse.dropWhile isBlank).reverse

def words (text : String) : List String :=
  (wordsOf text.toList).map String.ofList

def trim (text : String) : String :=
  String.ofList (trimmed text.toList)

end Concordance.Text
