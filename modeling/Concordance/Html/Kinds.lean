import Concordance.Html.Arena

/-!
The kinds of elements that the rules for building a tree distinguish.
-/
namespace Concordance.Html

def specialNames : List String :=
  ["address", "applet", "area", "article", "aside", "base", "basefont", "bgsound", "blockquote", "body", "br",
    "button", "caption", "center", "col", "colgroup", "dd", "details", "dir", "div", "dl", "dt", "embed",
    "fieldset", "figcaption", "figure", "footer", "form", "frame", "frameset", "h1", "h2", "h3", "h4", "h5",
    "h6", "head", "header", "hgroup", "hr", "html", "iframe", "img", "input", "isindex", "li", "link",
    "listing", "main", "marquee", "menu", "meta", "nav", "noembed", "noframes", "noscript", "object", "ol",
    "p", "param", "plaintext", "pre", "script", "section", "select", "source", "style", "summary", "table",
    "tbody", "td", "template", "textarea", "tfoot", "th", "thead", "title", "tr", "track", "ul", "wbr", "xmp"]

def headingNames : List String := ["h1", "h2", "h3", "h4", "h5", "h6"]

/-- Elements that end a paragraph when they begin. -/
def blockNames : List String :=
  ["address", "article", "aside", "blockquote", "center", "details", "dialog", "dir", "div", "dl", "fieldset",
    "figcaption", "figure", "footer", "header", "hgroup", "main", "menu", "nav", "ol", "p", "search", "section",
    "summary", "ul"]

/-- Elements whose end tag closes what is left open in them. -/
def closingNames : List String :=
  ["address", "article", "aside", "blockquote", "button", "center", "details", "dialog", "dir", "div", "dl",
    "fieldset", "figcaption", "figure", "footer", "header", "hgroup", "listing", "main", "menu", "nav", "ol",
    "pre", "search", "section", "summary", "ul"]

/-- Elements that are opened again where their end tag is missing. -/
def formattingNames : List String :=
  ["b", "big", "code", "em", "font", "i", "s", "small", "strike", "strong", "tt", "u"]

def emptyNames : List String := ["area", "br", "embed", "img", "keygen", "wbr", "input"]

/-- Elements that are open no longer when something else ends. -/
def impliedNames : List String :=
  ["dd", "dt", "li", "option", "optgroup", "p", "rb", "rp", "rt", "rtc"]

def tablePartNames : List String :=
  ["caption", "col", "colgroup", "tbody", "td", "tfoot", "th", "thead", "tr"]

def metadataNames : List String := ["base", "basefont", "bgsound", "link", "meta"]

/-- Start tags that never stand inside elements of other vocabularies. -/
def breakoutNames : List String :=
  ["b", "big", "blockquote", "body", "br", "center", "code", "dd", "div", "dl", "dt", "em", "embed", "h1",
    "h2", "h3", "h4", "h5", "h6", "head", "hr", "i", "img", "li", "listing", "menu", "meta", "nobr", "ol",
    "p", "pre", "ruby", "s", "small", "span", "strong", "strike", "sub", "sup", "table", "tt", "u", "ul",
    "var"]

namespace Cell

def isSpecial (c : Cell) : Bool := c.isAmong specialNames

def isHeading (c : Cell) : Bool := c.isAmong headingNames

/-- Whether the text in a formula's element is HTML. -/
def holdsMathText (c : Cell) : Bool :=
  c.space = .math && ["mi", "mo", "mn", "ms", "mtext"].contains c.name

/-- Whether a drawing's element has HTML inside. -/
def holdsDrawingText (c : Cell) : Bool :=
  c.space = .svg && ["foreignobject", "desc", "title"].contains c.name

def holdsAnnotation (c : Cell) : Bool :=
  c.space = .math && c.name = "annotation-xml" &&
    c.attributes.any (fun a => a.name = "encoding" &&
      ["text/html", "application/xhtml+xml"].contains (String.ofList (a.value.toList.map Char.toLower)))

/-- Elements behind which a search for an open element stops. -/
def bounds (c : Cell) : Bool :=
  c.isAmong ["applet", "caption", "html", "table", "td", "th", "marquee", "object", "template"] ||
    c.holdsMathText || c.holdsDrawingText

def boundsItem (c : Cell) : Bool := c.bounds || c.isAmong ["ol", "ul"]

def boundsParagraph (c : Cell) : Bool := c.bounds || c.isHtml "button"

def boundsTable (c : Cell) : Bool := c.isAmong ["html", "table", "template"]

def boundsSelect (c : Cell) : Bool := !c.isAmong ["optgroup", "option"]

end Cell

end Concordance.Html
