import Concordance.Notice
import Concordance.Text.Blank

/-!
Settings of a search, and reading them from named variables.
-/
namespace Concordance

/-- How much a search shows: the most results of one query, and the most characters of a document's text in
each. -/
structure Settings where
  maxResults : Nat := 10
  snippetLength : Nat := 150
  deriving DecidableEq, Repr

namespace Settings

/-- Counts are kept in 64 bits, so this is 2 to the 64th. -/
def countLimit : Nat := 0x10000000000000000

/-- The number some digits stand for, if it is below the limit. -/
def digitsValue? (digits : List Char) : Option Nat :=
  if digits ≠ [] ∧ digits.all Char.isDigit then
    let value := digits.foldl (fun n d => 10 * n + (d.toNat - '0'.toNat)) 0
    if value < countLimit then some value else none
  else none

/-- A count: ASCII digits, after a plus sign or not. -/
def count? (text : String) : Option Nat :=
  match text.toList with
  | '+' :: digits => digitsValue? digits
  | digits => digitsValue? digits

def maxResultsVariable : String := "BOOLSEARCH_MAX_RESULTS"

def snippetLengthVariable : String := "BOOLSEARCH_SNIPPET_LENGTH"

/-- The count a variable holds between blanks. Without one the default stands, and a value that is no
count is reported. -/
def readCount (name : String) (value : Option String) (standard : Nat) : Nat × List Notice :=
  match value with
  | none => (standard, [])
  | some raw =>
    match count? (Text.trim raw) with
    | some n => (n, [])
    | none => (standard, [⟨"Config", name, "ignoring unparsable value '" ++ raw ++ "'"⟩])

def ofVariables (lookup : String → Option String) : Settings × List Notice :=
  let standard : Settings := {}
  let (maxResults, first) :=
    readCount maxResultsVariable (lookup maxResultsVariable) standard.maxResults
  let (snippetLength, second) :=
    readCount snippetLengthVariable (lookup snippetLengthVariable) standard.snippetLength
  (⟨maxResults, snippetLength⟩, first ++ second)

end Settings

end Concordance
