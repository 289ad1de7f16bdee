import Concordance.Html.Node

/-!
What the markup of a page is made of.
-/
namespace Concordance.Html

structure Tag where
  isEnd : Bool := false
  name : String
  attributes : List Attribute := []
  selfClosing : Bool := false
  deriving DecidableEq, Repr

def Tag.attribute? (t : Tag) (name : String) : Option String :=
  (t.attributes.find? (fun a => a.name = name)).map Attribute.value

/-- A document type declaration. An unfinished or malformed one is `broken`. -/
structure Doctype where
  name : Option String := none
  publicId : Option String := none
  systemId : Option String := none
  broken : Bool := false
  deriving DecidableEq, Repr

/-- A piece of markup. A null character counts as one between tags, and a fault is a mistake that leaves
nothing else behind. -/
inductive Token where
  | char (c : Char)
  | null
  | tag (t : Tag)
  | comment
  | doctype (d : Doctype)
  | fault
  | finish
  deriving DecidableEq, Repr

/-- How the characters up to the next tag are read: all markup is (`markup`), references and one end tag are
(`escapable`), or only one end tag is (`raw`). -/
inductive TextModel where
  | markup
  | escapable (endName : String)
  | raw (endName : String)
  | script
  | plain
  deriving DecidableEq, Repr

def isSpace (c : Char) : Bool :=
  c = ' ' || c = '\t' || c = '\n' || c = '\x0c' || c = '\r'

end Concordance.Html
