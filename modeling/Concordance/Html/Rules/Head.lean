import Concordance.Html.Reopening

/-!
Rules for the start of a page, up to its body.
-/
namespace Concordance.Html.Builder

def closeTemplate (b : Builder) : Builder :=
  if b.isOpen "template" then
    let b := b.popThroughNamed "template"
    { b with templateModes := b.templateModes.tail }.clearToMarker.reset
  else b

def openTemplate (b : Builder) (t : Tag) : Builder :=
  let b := (b.openTag t).pushMarker.disallowFrameset.inMode .inTemplate
  { b with templateModes := .inTemplate :: b.templateModes }

/-- Puts the element of a head tag into the tree; none if the tag is no such tag. -/
def headTag? (b : Builder) (t : Tag) : Option Builder :=
  if t.isEnd then (if t.name = "template" then some b.closeTemplate else none)
  else if metadataNames.contains t.name then some (b.insertTag t)
  else match t.name with
    | "title" => some (b.openText t (.escapable t.name))
    | "noframes" | "style" => some (b.openText t (.raw t.name))
    | "script" => some (b.openText t .script)
    | "template" => some (b.openTemplate t)
    | _ => none

/-- End tags that begin what is missing before them; all others are ignored before the body. -/
def impliesBody (t : Tag) : Bool :=
  t.isEnd && ["body", "html", "br"].contains t.name

def initial (b : Builder) (token : Token) : Progress :=
  let otherwise := { b with lenient := true }.again .beforeHtml token
  match token with
  | .char c => if isSpace c then b.done else otherwise
  | _ => otherwise

def openRoot (b : Builder) (t : Tag) : Builder :=
  let (arena, id) := b.arena.create .html t
  ({ b with arena := arena.append 0 id }.push id).inMode .beforeHead

def beforeHtml (b : Builder) (token : Token) : Progress :=
  let otherwise := (b.openRoot { name := "html" }).again .beforeHead token
  match token with
  | .char c => if isSpace c then b.done else otherwise
  | .tag t =>
    if t.isEnd then (if impliesBody t || t.name = "head" then otherwise else b.done)
    else if t.name = "html" then (b.openRoot t).done
    else otherwise
  | _ => otherwise

def openHead (b : Builder) (t : Tag) : Builder :=
  let (b, id) := b.openIn .html t
  { b with head := some id, mode := .inHead }

def beforeHead (b : Builder) (token : Token) : Progress :=
  let otherwise := (b.openHead { name := "head" }).again .inHead token
  match token with
  | .char c => if isSpace c then b.done else otherwise
  | .tag t =>
    if t.isEnd then (if impliesBody t || t.name = "head" then otherwise else b.done)
    else if t.name = "html" then b.done
    else if t.name = "head" then (b.openHead t).done
    else otherwise
  | _ => otherwise

def inHead (b : Builder) (token : Token) : Progress :=
  let otherwise := b.pop.again .afterHead token
  match token with
  | .char c => if isSpace c then (b.addChar c).done else otherwise
  | .tag t =>
    match b.headTag? t with
    | some b => b.done
    | none =>
      if t.isEnd then
        if t.name = "head" then (b.pop.inMode .afterHead).done
        else if impliesBody t then otherwise
        else b.done
      else if t.name = "noscript" then (b.openText t (.raw t.name)).done
      else if t.name = "html" || t.name = "head" then b.done
      else otherwise
  | _ => otherwise

/-- Puts the element of a head tag into the head, which is no longer open. -/
def lateHeadTag? (b : Builder) (t : Tag) : Option Builder :=
  match b.head with
  | none => b.headTag? t
  | some head => ((b.push head).headTag? t).map (·.forget head)

def afterHead (b : Builder) (token : Token) : Progress :=
  let otherwise := (b.openNamed "body").again .inBody token
  match token with
  | .char c => if isSpace c then (b.addChar c).done else otherwise
  | .tag t =>
    if t.isEnd then
      if t.name = "template" then b.closeTemplate.done
      else if impliesBody t then otherwise
      else b.done
    else match t.name with
      | "html" | "head" => b.done
      | "body" => ((b.openTag t).disallowFrameset.inMode .inBody).done
      | "frameset" => ((b.openTag t).inMode .inFrameset).done
      | _ =>
        match b.lateHeadTag? t with
        | some b => b.done
        | none => otherwise
  | _ => otherwise

end Concordance.Html.Builder
