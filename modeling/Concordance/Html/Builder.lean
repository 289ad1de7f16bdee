import Concordance.Html.Kinds

/-!
The state of building a tree: the elements that are open, where new ones go, and what closes them.
-/
namespace Concordance.Html

/-- Which rules apply to the next token. -/
inductive Mode where
  | initial
  | beforeHtml
  | beforeHead
  | inHead
  | afterHead
  | inBody
  | text
  | inTable
  | inTableText
  | inCaption
  | inColumnGroup
  | inTableBody
  | inRow
  | inCell
  | inSelect
  | inSelectInTable
  | inTemplate
  | afterBody
  | inFrameset
  | afterFrameset
  | afterAfterBody
  | afterAfterFrameset
  deriving DecidableEq, Repr

/-- Formatting elements that may have to be opened again. A marker keeps those before it apart. -/
inductive Formatting where
  | marker
  | element (id : Nat) (t : Tag)
  deriving DecidableEq, Repr

/-- A tree in the making. Open elements, formatting elements and the characters directly in a table stand with
the last one first. `home` is the mode to go back to after text. A `lenient` builder lets a table stand in a
paragraph, as old pages expect; a `fostering` one places what does not belong into a table before it; one
that `skipsBreak` drops a line break that comes next. If the text after this token is read otherwise than
before, `model` says how. -/
structure Builder where
  arena : Arena := Arena.start
  mode : Mode := .initial
  home : Mode := .initial
  stack : List Nat := []
  formatting : List Formatting := []
  templateModes : List Mode := []
  tableText : List Char := []
  lenient : Bool := false
  framesetAllowed : Bool := true
  fostering : Bool := false
  skipsBreak : Bool := false
  head : Option Nat := none
  form : Option Nat := none
  model : Option TextModel := none
  deriving Repr

/-- What a step leaves: nothing more to do, or a token to be read again by other rules. -/
inductive Progress where
  | done (b : Builder)
  | again (b : Builder) (token : Token)
  deriving Repr

namespace Builder

def done (b : Builder) : Progress := .done b

def again (b : Builder) (mode : Mode) (token : Token) : Progress := .again { b with mode } token

def cell (b : Builder) (id : Nat) : Cell := b.arena.cell id

/-- The last element that was opened; the document if none is open. -/
def current (b : Builder) : Nat := b.stack.headD 0

def currentCell (b : Builder) : Cell := b.cell b.current

def currentIs (b : Builder) (name : String) : Bool := b.currentCell.isHtml name

def root (b : Builder) : Nat := b.stack.getLastD 0

def isForeign (b : Builder) : Bool :=
  !b.stack.isEmpty && b.currentCell.space ≠ .html

def inMode (b : Builder) (mode : Mode) : Builder := { b with mode }

def push (b : Builder) (id : Nat) : Builder := { b with stack := id :: b.stack }

def pop (b : Builder) : Builder := { b with stack := b.stack.tail }

/-- Leaves the open elements up to the first one that `p` holds of, which stays open. -/
def popTo (b : Builder) (p : Cell → Bool) : Builder :=
  { b with stack := b.stack.dropWhile (fun id => !p (b.cell id)) }

/-- Leaves the open elements up to the first one that `p` holds of, and this one too. -/
def popThrough (b : Builder) (p : Cell → Bool) : Builder :=
  (b.popTo p).pop

def popThroughNamed (b : Builder) (name : String) : Builder :=
  b.popThrough (·.isHtml name)

def isOpen (b : Builder) (name : String) : Bool :=
  b.stack.any fun id => (b.cell id).isHtml name

/-- Whether some open element that `p` holds of is reached before a bound. -/
def inScope (b : Builder) (isBound : Cell → Bool) (p : Nat → Bool) : Bool :=
  go b.stack
where
  go : List Nat → Bool
    | [] => false
    | id :: rest => p id || (!isBound (b.cell id) && go rest)

def namedInScope (b : Builder) (isBound : Cell → Bool) (name : String) : Bool :=
  b.inScope isBound fun id => (b.cell id).isHtml name

def disallowFrameset (b : Builder) : Builder := { b with framesetAllowed := false }

/-- Where something new goes: at the end of an element, or just before a table in its parent. -/
inductive Place where
  | lastIn (id : Nat)
  | before (table parent : Nat)
  deriving DecidableEq, Repr

/-- Where something new below `target` goes. In a table it goes before the table, if it is fostered;
what is in a template goes to the template's contents, the cell after it. -/
def placeIn (b : Builder) (target : Nat) : Place :=
  let inside (id : Nat) : Place := .lastIn (if (b.cell id).isHtml "template" then id + 1 else id)
  if b.fostering && (b.cell target).isAmong ["table", "tbody", "tfoot", "thead", "tr"] then
    fosterPlace b.stack
  else inside target
where
  fosterPlace : List Nat → Place
    | [] => .lastIn b.root
    | id :: rest =>
      if (b.cell id).isHtml "template" then .lastIn (id + 1)
      else if (b.cell id).isHtml "table" then
        match (b.cell id).parent with
        | some parent => .before id parent
        | none => .lastIn (rest.headD 0)
      else fosterPlace rest

def attach (b : Builder) (target child : Nat) : Builder :=
  match b.placeIn target with
  | .lastIn id => { b with arena := b.arena.append id child }
  | .before table parent => { b with arena := b.arena.appendBefore table parent child }

def addChar (b : Builder) (c : Char) : Builder :=
  match b.placeIn b.current with
  | .lastIn id => { b with arena := b.arena.modify id (·.pushChar c) }
  | .before table parent => { b with arena := b.arena.charBefore table parent c }

def insertIn (b : Builder) (space : Space) (t : Tag) : Builder × Nat :=
  let (arena, id) := b.arena.create space t
  ({ b with arena }.attach b.current id, id)

def openIn (b : Builder) (space : Space) (t : Tag) : Builder × Nat :=
  let (b, id) := b.insertIn space t
  (b.push id, id)

def openTag (b : Builder) (t : Tag) : Builder :=
  (b.openIn .html t).1

/-- Opens an element that has no tag in the text. -/
def openNamed (b : Builder) (name : String) : Builder :=
  b.openTag { name }

def insertTag (b : Builder) (t : Tag) : Builder :=
  (b.insertIn .html t).1

/-- Opens an element whose contents are only text. -/
def openText (b : Builder) (t : Tag) (model : TextModel) : Builder :=
  { b.openTag t with home := b.mode, mode := .text, model := some model }

def popImplied (b : Builder) (names : List String) : Builder :=
  { b with stack := b.stack.dropWhile fun id => (b.cell id).isAmong names }

def popImpliedExcept (b : Builder) (name : String) : Builder :=
  b.popImplied (impliedNames.erase name)

/-- Closes a paragraph that is open, if nothing keeps it apart. -/
def endParagraph (b : Builder) : Builder :=
  if b.namedInScope Cell.boundsParagraph "p" then b.popThroughNamed "p" else b

def forget (b : Builder) (id : Nat) : Builder :=
  { b with stack := b.stack.erase id }

/-- The mode in which an end tag leaves the elements that are still open. -/
def resetMode (b : Builder) : Mode :=
  go b.stack
where
  go : List Nat → Mode
    | [] => .inBody
    | id :: rest =>
      let c := b.cell id
      if c.space ≠ .html then go rest
      else match c.name with
        | "select" => selectMode rest
        | "td" | "th" => if rest.isEmpty then .inBody else .inCell
        | "tr" => .inRow
        | "tbody" | "thead" | "tfoot" => .inTableBody
        | "caption" => .inCaption
        | "colgroup" => .inColumnGroup
        | "table" => .inTable
        | "template" => b.templateModes.headD .inBody
        | "head" => if rest.isEmpty then .inBody else .inHead
        | "body" => .inBody
        | "frameset" => .inFrameset
        | "html" => if b.head.isNone then .beforeHead else .afterHead
        | _ => go rest
  selectMode : List Nat → Mode
    | [] => .inSelect
    | id :: rest =>
      if (b.cell id).isHtml "template" then .inSelect
      else if (b.cell id).isHtml "table" then .inSelectInTable
      else selectMode rest

def reset (b : Builder) : Builder := b.inMode b.resetMode

end Builder

end Concordance.Html
