import Concordance.Html.Rules.Head

/-!
Rules for the body of a page.
-/
namespace Concordance.Html.Builder

def body? (b : Builder) : Option Nat :=
  match b.stack.reverse with
  | _ :: id :: _ => if (b.cell id).isHtml "body" then some id else none
  | _ => none

/-- Ends a list item or the like before another one begins. -/
def closeItem (b : Builder) (names : List String) : Builder :=
  go b.stack
where
  go : List Nat → Builder
    | [] => b
    | id :: rest =>
      let c := b.cell id
      if c.isAmong names then b.popThroughNamed c.name
      else if c.isSpecial && !c.isAmong ["address", "div", "p"] then b
      else go rest

/-- Replaces the body by a set of frames, if nothing has been seen that needs a body. -/
def replaceByFrameset (b : Builder) (t : Tag) : Builder :=
  match b.body? with
  | some body =>
    if b.framesetAllowed then
      let b := { b with arena := b.arena.detach body, stack := [b.root] }
      (b.openTag t).inMode .inFrameset
    else b
  | none => b

def openForm (b : Builder) (t : Tag) : Builder :=
  let inTemplate := b.isOpen "template"
  if b.form.isSome && !inTemplate then b
  else
    let (b, id) := b.endParagraph.openIn .html t
    if inTemplate then b else { b with form := some id }

def closeForm (b : Builder) : Builder :=
  if b.isOpen "template" then
    if b.namedInScope Cell.bounds "form" then b.popThroughNamed "form" else b
  else match b.form with
    | none => b
    | some id =>
      let b := { b with form := none }
      if b.inScope Cell.bounds (· = id) then (b.popImplied impliedNames).forget id else b

def isHidden (t : Tag) : Bool :=
  (t.attribute? "type").any fun type => type.toList.map Char.toLower = "hidden".toList

def openSelect (b : Builder) (t : Tag) : Builder :=
  let mode := if [.inTable, .inCaption, .inTableBody, .inRow, .inCell].contains b.mode then .inSelectInTable
    else .inSelect
  ((b.reopen.openTag t).disallowFrameset).inMode mode

def insertForeign (b : Builder) (space : Space) (t : Tag) : Builder :=
  if t.selfClosing then (b.insertIn space t).1 else (b.openIn space t).1

/-- Adds an element without contents where formatting goes on. -/
def insertEmpty (b : Builder) (t : Tag) : Builder :=
  b.reopen.insertTag t

def startInBody (b : Builder) (t : Tag) : Builder :=
  if blockNames.contains t.name then b.endParagraph.openTag t
  else if headingNames.contains t.name then
    let b := b.endParagraph
    (if b.currentCell.isHeading then b.pop else b).openTag t
  else if formattingNames.contains t.name then b.reopen.openFormatting t
  else if emptyNames.contains t.name then
    let b := b.insertEmpty t
    if t.name = "input" && isHidden t then b else b.disallowFrameset
  else if tablePartNames.contains t.name then b
  else match t.name with
    | "html" | "frame" | "head" => b
    | "body" => if b.body?.isSome && !b.isOpen "template" then b.disallowFrameset else b
    | "frameset" => b.replaceByFrameset t
    | "pre" | "listing" => { b.endParagraph.openTag t with skipsBreak := true, framesetAllowed := false }
    | "form" => b.openForm t
    | "li" => ((b.disallowFrameset.closeItem ["li"]).endParagraph).openTag t
    | "dd" | "dt" => ((b.disallowFrameset.closeItem ["dd", "dt"]).endParagraph).openTag t
    | "plaintext" => { b.endParagraph.openTag t with model := some .plain }
    | "button" =>
      let b := if b.namedInScope Cell.bounds "button" then b.popThroughNamed "button" else b
      (b.reopen.openTag t).disallowFrameset
    | "a" => (b.endLink.reopen).openFormatting t
    | "nobr" =>
      let b := b.reopen
      (if b.namedInScope Cell.bounds "nobr" then (b.closeFormatting "nobr").reopen else b).openFormatting t
    | "applet" | "marquee" | "object" => (b.reopen.openTag t).pushMarker.disallowFrameset
    | "table" => (((if b.lenient then b else b.endParagraph).openTag t).disallowFrameset).inMode .inTable
    | "param" | "source" | "track" => b.insertTag t
    | "hr" => (b.endParagraph.insertTag t).disallowFrameset
    | "image" => (b.insertEmpty { t with name := "img" }).disallowFrameset
    | "textarea" => { b.disallowFrameset.openText t (.escapable t.name) with skipsBreak := true }
    | "xmp" => (b.endParagraph.reopen.disallowFrameset).openText t (.raw t.name)
    | "iframe" => b.disallowFrameset.openText t (.raw t.name)
    | "noembed" | "noscript" => b.openText t (.raw t.name)
    | "select" => b.openSelect t
    | "optgroup" | "option" => ((if b.currentIs "option" then b.pop else b).reopen).openTag t
    | "rb" | "rtc" =>
      (if b.namedInScope Cell.bounds "ruby" then b.popImplied impliedNames else b).openTag t
    | "rp" | "rt" =>
      (if b.namedInScope Cell.bounds "ruby" then b.popImpliedExcept "rtc" else b).openTag t
    | "math" => b.insertForeign .math t
    | "svg" => b.insertForeign .svg t
    | _ => (b.headTag? t).getD (b.reopen.openTag t)

/-- Closes an element and what is still open in it, if it is open in the part that a bound keeps apart. -/
def closeInScope (b : Builder) (isBound : Cell → Bool) (name : String) : Builder :=
  if b.namedInScope isBound name then b.popThroughNamed name else b

def endInBody (b : Builder) (t : Tag) : Progress :=
  if closingNames.contains t.name then (b.closeInScope Cell.bounds t.name).done
  else if headingNames.contains t.name then
    if b.inScope Cell.bounds (fun id => (b.cell id).isHeading) then
      (b.popThrough Cell.isHeading).done
    else b.done
  else if formattingNames.contains t.name || t.name = "a" || t.name = "nobr" then
    (b.closeFormatting t.name).done
  else match t.name with
    | "template" => b.closeTemplate.done
    | "body" => if b.namedInScope Cell.bounds "body" then (b.inMode .afterBody).done else b.done
    | "html" => if b.namedInScope Cell.bounds "body" then b.again .afterBody (.tag t) else b.done
    | "form" => b.closeForm.done
    | "p" =>
      (if b.namedInScope Cell.boundsParagraph "p" then b.popThroughNamed "p" else b.insertTag { name := "p" }).done
    | "li" => (b.closeInScope Cell.boundsItem "li").done
    | "dd" | "dt" => (b.closeInScope Cell.bounds t.name).done
    | "applet" | "marquee" | "object" =>
      if b.namedInScope Cell.bounds t.name then (b.closeInScope Cell.bounds t.name).clearToMarker.done
      else b.done
    | "br" => (b.insertEmpty { name := "br" }).disallowFrameset.done
    | _ => (b.closeNamed t.name).done

def charInBody (b : Builder) (c : Char) : Builder :=
  let b := b.reopen.addChar c
  if isSpace c then b else b.disallowFrameset

def inBody (b : Builder) (token : Token) : Progress :=
  match token with
  | .char c => (b.charInBody c).done
  | .tag t => if t.isEnd then b.endInBody t else (b.startInBody t).done
  | _ => b.done

end Concordance.Html.Builder
