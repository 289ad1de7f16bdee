import Concordance.Html.Token

/-!
Trees while they are built.

Elements are numbered cells that know their parent, so that an element can be moved with all that is
below it. Cell 0 is the document. A template is followed by a cell for its contents, which no cell has
as a child: what is in a template is not part of the tree.
-/
namespace Concordance.Html

inductive Space where
  | html
  | svg
  | math
  deriving DecidableEq, Repr

inductive Child where
  | text (content : String)
  | element (id : Nat)
  deriving DecidableEq, Repr

/-- An element. Its children stand with the last one first. -/
structure Cell where
  name : String
  space : Space := .html
  attributes : List Attribute := []
  parent : Option Nat := none
  children : List Child := []
  deriving DecidableEq, Repr, Inhabited

namespace Cell

def isHtml (c : Cell) (name : String) : Bool :=
  c.space = .html && c.name = name

def isAmong (c : Cell) (names : List String) : Bool :=
  c.space = .html && names.contains c.name

def pushChar (cell : Cell) (c : Char) : Cell :=
  match cell.children with
  | .text content :: rest => { cell with children := .text (content.push c) :: rest }
  | children => { cell with children := .text (String.singleton c) :: children }

end Cell

abbrev Arena := Array Cell

namespace Arena

def start : Arena := #[{ name := "" }]

def cell (a : Arena) (id : Nat) : Cell :=
  a[id]?.getD { name := "" }

/-- Adds an element that has no parent yet. -/
def create (a : Arena) (space : Space) (t : Tag) : Arena × Nat :=
  let a' := Array.push a { name := t.name, space, attributes := t.attributes }
  (if space = .html ∧ t.name = "template" then a'.push { name := "" } else a', a.size)

def append (a : Arena) (parent child : Nat) : Arena :=
  (a.modify parent fun c => { c with children := .element child :: c.children }).modify child fun c =>
    { c with parent := some parent }

def detach (a : Arena) (id : Nat) : Arena :=
  match (a.cell id).parent with
  | none => a
  | some parent =>
    (a.modify parent fun c => { c with children := c.children.erase (.element id) }).modify id fun c =>
      { c with parent := none }

/-- Gives all children of an element to another. -/
def moveChildren (a : Arena) (source target : Nat) : Arena :=
  let moved := (a.cell source).children
  let a := (a.modify source fun c => { c with children := [] }).modify target fun c =>
    { c with children := moved ++ c.children }
  moved.foldl (fun a child =>
    match child with
    | .text _ => a
    | .element id => a.modify id fun c => { c with parent := some target }) a

def insertBefore (id : Nat) (insert : List Child → List Child) : List Child → List Child
  | [] => []
  | .element other :: rest =>
    if other = id then .element other :: insert rest else .element other :: insertBefore id insert rest
  | child :: rest => child :: insertBefore id insert rest

/-- Adds an element just before another that has a parent. -/
def appendBefore (a : Arena) (sibling parent child : Nat) : Arena :=
  (a.modify parent fun c => { c with children := insertBefore sibling (.element child :: ·) c.children }).modify child
    fun c => { c with parent := some parent }

def charBefore (a : Arena) (sibling parent : Nat) (c : Char) : Arena :=
  a.modify parent fun cell => { cell with children := insertBefore sibling (fun rest =>
    ({ cell with children := rest }.pushChar c).children) cell.children }

/-- The tree at an element, down to some depth. -/
def node (a : Arena) : Nat → Nat → Node
  | 0, _ => .text ""
  | depth + 1, id =>
    let c := a.cell id
    .element c.name c.attributes (c.children.reverse.map fun child =>
      match child with
      | .text content => .text content
      | .element id => a.node depth id)

/-- The document. No element is deeper than there are cells. -/
def document (a : Arena) : List Node :=
  (a.node (Array.size a + 1) 0).children

end Arena

end Concordance.Html
