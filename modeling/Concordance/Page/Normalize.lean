import Concordance.Page.StopWords
import Concordance.Text.Blank
import Concordance.Text.Lowercase

/-!
From the text of a page to the words that are indexed.

Line breaks and tabs count as spaces, punctuation is removed, the text is set in lowercase and cut into
words, and stop words are dropped.
-/
namespace Concordance.Page

def punctuation : List Char :=
  ['<', '>', '¿', '?', ',', ';', ':', '.', '(', ')', '[', ']', '"', '\'', '¡', '!']

/-- A line break or tab as a space; any other character as it is. -/
def spaced (c : Char) : Char :=
  if c = '\n' ∨ c = '\t' ∨ c = '\r' then ' ' else c

/-- The words of a text that are indexed, in order. -/
def normalizeOf (text : List Char) : List (List Char) :=
  let kept := (text.map spaced).filter (fun c => !punctuation.contains c)
  (Text.wordsOf (Text.lowerOf kept)).filter (fun word => !isStopWord (String.ofList word))

def normalize (text : String) : List String :=
  (normalizeOf text.toList).map String.ofList

end Concordance.Page
