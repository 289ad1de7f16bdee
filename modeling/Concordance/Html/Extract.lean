import Concordance.Html.Node
import Concordance.Text.Blank

/-!
What an HTML page says.

The title is the text of the first title element. The text is that of the headings, paragraphs, links
and emphasis of the page block, which is the first div of class "page": each outermost content element
of the block gives one piece, and single spaces join the pieces. Scripts and styles are silent: text
below them does not belong to an element above them.
-/
namespace Concordance.Html

/-- The elements whose text says nothing. -/
def silentNames : List String := ["script", "style"]

def contentNames : List String := ["h1", "h2", "h3", "b", "i", "p", "a"]

mutual

def Node.spoken : Node → String
  | .text content => content
  | .element name _ children => if silentNames.contains name then "" else spokenBy children

def spokenBy : List Node → String
  | [] => ""
  | n :: ns => n.spoken ++ spokenBy ns

end

mutual

/-- The texts of the outermost content elements at and below a node. -/
def Node.pieces : Node → List String
  | .text _ => []
  | .element name _ children =>
    if contentNames.contains name then [spokenBy children] else piecesOf children

def piecesOf : List Node → List String
  | [] => []
  | n :: ns => n.pieces ++ piecesOf ns

end

/-- Whether a node is an element with the given class. The value of a class attribute lists class names
between blanks. -/
def Node.hasClass (wanted : String) : Node → Bool
  | .text _ => false
  | .element _ attributes _ =>
    attributes.any (fun a => a.name = "class" && (Text.words a.value).contains wanted)

def Node.isPageBlock (n : Node) : Bool :=
  n.isNamed "div" && n.hasClass "page"

def pageText (document : List Node) : String :=
  match findIn? Node.isPageBlock document with
  | some block => String.intercalate " " (piecesOf block.children)
  | none => ""

/-- The title of a document, its words joined by single spaces, if it has one with a word. -/
def title? (document : List Node) : Option String :=
  match findIn? (Node.isNamed "title") document with
  | some element =>
    let title := String.intercalate " " (Text.words element.spoken)
    if title.isEmpty then none else some title
  | none => none

end Concordance.Html
