/-!
The lines of a text.

A line ends with a line feed, or with a carriage return and a line feed. What follows the last ending is
a line as well unless it is empty, and keeps a carriage return it ends with.
-/
namespace Concordance.Text

/-- A line without the carriage return before its line feed. -/
def withoutReturn (line : List Char) : List Char :=
  if line.getLast? = some '\r' then line.dropLast else line

/-- The lines of a text cut at its line feeds, given the pieces. -/
def linesOfPieces : List (List Char) → List (List Char)
  | [] => []
  | [last] => if last = [] then [] else [last]
  | piece :: rest => withoutReturn piece :: linesOfPieces rest

def linesOf (text : List Char) : List (List Char) :=
  linesOfPieces (text.splitOnP (· == '\n'))

def lines (text : String) : List String :=
  (linesOf text.toList).map String.ofList

end Concordance.Text
