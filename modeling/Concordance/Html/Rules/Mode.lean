import Concordance.Html.Rules.Table

/-!
Rules for frames, for what follows the body, for templates, and for drawings and formulas; the rules of
each mode together.
-/
namespace Concordance.Html.Builder

/-- Text that is not markup, up to its end tag. -/
def inText (b : Builder) (token : Token) : Progress :=
  match token with
  | .char c => (b.addChar c).done
  | .tag _ => (b.pop.inMode b.home).done
  | .finish => b.pop.again b.home token
  | _ => b.done

def templateModeFor (name : String) : Mode :=
  match name with
  | "caption" | "colgroup" | "tbody" | "tfoot" | "thead" => .inTable
  | "col" => .inColumnGroup
  | "tr" => .inTableBody
  | "td" | "th" => .inRow
  | _ => .inBody

def inTemplate (b : Builder) (token : Token) : Progress :=
  match token with
  | .char _ => b.inBody token
  | .tag t =>
    match b.headTag? t with
    | some b => b.done
    | none =>
      if t.isEnd then b.done
      else
        let mode := templateModeFor t.name
        { b with templateModes := mode :: b.templateModes.tail }.again mode token
  | _ => b.done

def afterBody (b : Builder) (token : Token) : Progress :=
  let otherwise := b.again .inBody token
  match token with
  | .char c => if isSpace c then b.inBody token else otherwise
  | .tag t =>
    if t.name ≠ "html" then otherwise
    else if t.isEnd then (b.inMode .afterAfterBody).done
    else b.done
  | .finish => b.done
  | _ => otherwise

def afterAfterBody (b : Builder) (token : Token) : Progress :=
  let otherwise := b.again .inBody token
  match token with
  | .char c => if isSpace c then b.inBody token else otherwise
  | .tag t => if t.name = "html" && !t.isEnd then b.done else otherwise
  | .finish => b.done
  | _ => otherwise

def inFrameset (b : Builder) (token : Token) : Progress :=
  match token with
  | .char c => (if isSpace c then b.addChar c else b).done
  | .tag t =>
    match t.isEnd, t.name with
    | false, "frameset" => (b.openTag t).done
    | false, "frame" => (b.insertTag t).done
    | false, "noframes" => ((b.headTag? t).getD b).done
    | true, "frameset" =>
      if b.stack.length = 1 then b.done
      else
        let b := b.pop
        (if b.currentIs "frameset" then b else b.inMode .afterFrameset).done
    | _, _ => b.done
  | _ => b.done

def afterFrameset (b : Builder) (token : Token) : Progress :=
  match token with
  | .char c => (if isSpace c then b.addChar c else b).done
  | .tag t =>
    match t.isEnd, t.name with
    | true, "html" => (b.inMode .afterAfterFrameset).done
    | false, "noframes" => ((b.headTag? t).getD b).done
    | _, _ => b.done
  | _ => b.done

def afterAfterFrameset (b : Builder) (token : Token) : Progress :=
  match token with
  | .char c => if isSpace c then b.inBody token else b.done
  | .tag t => (if !t.isEnd && t.name = "noframes" then (b.headTag? t).getD b else b).done
  | _ => b.done

def step (b : Builder) (token : Token) : Progress :=
  match b.mode with
  | .initial => b.initial token
  | .beforeHtml => b.beforeHtml token
  | .beforeHead => b.beforeHead token
  | .inHead => b.inHead token
  | .afterHead => b.afterHead token
  | .inBody => b.inBody token
  | .text => b.inText token
  | .inTable => b.inTable token
  | .inTableText => b.inTableText token
  | .inCaption => b.inCaption token
  | .inColumnGroup => b.inColumnGroup token
  | .inTableBody => b.inTableBody token
  | .inRow => b.inRow token
  | .inCell => b.inCell token
  | .inSelect => b.inSelect token
  | .inSelectInTable => b.inSelectInTable token
  | .inTemplate => b.inTemplate token
  | .afterBody => b.afterBody token
  | .inFrameset => b.inFrameset token
  | .afterFrameset => b.afterFrameset token
  | .afterAfterBody => b.afterAfterBody token
  | .afterAfterFrameset => b.afterAfterFrameset token

/-- Whether a token belongs to a drawing or formula that is open. -/
def belongsToForeign (b : Builder) (token : Token) : Bool :=
  let c := b.currentCell
  let isText := match token with
    | .char _ | .null => true
    | _ => false
  let start? := match token with
    | .tag t => if t.isEnd then none else some t.name
    | _ => none
  if !b.isForeign || token = .finish then false
  else if c.holdsMathText && (isText || start?.any (fun name => name ≠ "mglyph" && name ≠ "malignmark")) then false
  else if c.holdsDrawingText && (isText || start?.isSome) then false
  else if c.space = .math && c.name = "annotation-xml" && start? = some "svg" then false
  else if c.holdsAnnotation && (isText || start?.isSome) then false
  else true

/-- Leaves drawings and formulas up to an element that holds HTML, and goes on by the rules of the mode. -/
def breakOut (b : Builder) (token : Token) : Progress :=
  (b.popTo fun c => c.space = .html || c.holdsMathText || c.holdsDrawingText).step token

def breaksOut (t : Tag) : Bool :=
  breakoutNames.contains t.name ||
    (t.name = "font" && t.attributes.any fun a => ["color", "face", "size"].contains a.name)

/-- An end tag in a drawing or formula closes the last open element of its name there. -/
def endForeign (b : Builder) (t : Tag) : List Nat → Bool → Progress
  | [], _ | [_], _ => b.done
  | id :: rest, first =>
    let c := b.cell id
    if !first && c.space = .html then b.step (.tag t)
    else if c.name = t.name then { b with stack := rest }.done
    else endForeign b t rest false

def stepForeign (b : Builder) (token : Token) : Progress :=
  match token with
  | .null => (b.addChar '\uFFFD').done
  | .char c => ((if isSpace c then b else b.disallowFrameset).addChar c).done
  | .tag t =>
    if t.isEnd then
      if t.name = "br" || t.name = "p" then b.breakOut token else b.endForeign t b.stack true
    else if breaksOut t then b.breakOut token
    else (b.insertForeign b.currentCell.space t).done
  | _ => b.done

end Concordance.Html.Builder
