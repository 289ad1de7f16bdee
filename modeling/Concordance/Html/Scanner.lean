import Concordance.Html.Scanner.Doctype
import Concordance.Html.Scanner.Script

/-!
From characters to tokens.

A scanner takes one character at a time and gives the tokens that are complete. What the characters
after a start tag mean depends on the tree that is built, so the text model is set from outside.
-/
namespace Concordance.Html

/-- What is being read. Runs, names and declarations are kept as far as they have come, last character first.
In text that is not markup only an end tag may follow an opening bracket (`less`); in a bogus comment
nothing counts up to the closing bracket; a literal section counts the closing square brackets just before, up
to two. -/
inductive ScanState where
  | content
  | reference (run : List Char)
  | tagOpen
  | endTagOpen
  | tag (t : OpenTag)
  | less
  | endName (name : List Char)
  | script (p : ScriptPart)
  | declaration (seen : List Char)
  | comment (p : CommentPart)
  | bogusComment
  | doctype (d : OpenDoctype)
  | literal (brackets : Nat)
  deriving DecidableEq, Repr

structure Scanner where
  model : TextModel := .markup
  state : ScanState := .content
  deriving DecidableEq, Repr

namespace Scanner

def charTokens (cs : List Char) : List Token :=
  cs.map Token.char

def ofModel (model : TextModel) : Scanner :=
  match model with
  | .script => { model, state := .script .plain }
  | _ => { model }

/-- After a complete tag, markup follows. -/
def ended (token : Token) : Scanner × List Token :=
  ({}, [token])

def content (model : TextModel) (c : Char) : Scanner × List Token :=
  match model with
  | .markup =>
    if c = '<' then ({ model, state := .tagOpen }, [])
    else if c = '&' then ({ model, state := .reference [] }, [])
    else if c = '\x00' then ({ model }, [.null])
    else ({ model }, [.char c])
  | .escapable _ =>
    if c = '<' then ({ model, state := .less }, [])
    else if c = '&' then ({ model, state := .reference [] }, [])
    else ({ model }, [.char (visible c)])
  | .raw _ => if c = '<' then ({ model, state := .less }, []) else ({ model }, [.char (visible c)])
  | .script => ({ model, state := .script (.plainBy c) }, [])
  | .plain => ({ model }, [.char (visible c)])

/-- Some characters that turned out to be text, and the one after them. -/
def textThen (before : List Token) (model : TextModel) (c : Char) : Scanner × List Token :=
  let (scanner, tokens) := content model c
  (scanner, before ++ tokens)

def tagThen (model : TextModel) (t : OpenTag) (c : Char) : Scanner × List Token :=
  match t.feed c with
  | .inl t => ({ model, state := .tag t }, [])
  | .inr t => ended (.tag t)

def bogusThen (c : Char) : Scanner × List Token :=
  if c = '>' then ended .comment else ({ state := .bogusComment }, [])

def endsName (c : Char) : Bool :=
  isSpace c || c = '/' || c = '>'

/-- The characters a reference stands for. A reference without its semicolon is a fault. -/
def referenceTokens (run : List Char) : List Token :=
  let decoded := Reference.decodeRun .content run.reverse
  (if decoded.unended then [.fault] else []) ++ charTokens decoded.characters

/-- A character after an opening bracket and an exclamation mark. Literal sections are only read inside
`foreign` elements. -/
def declarationThen (foreign : Bool) (seen : List Char) (c : Char) : Scanner × List Token :=
  let now := (c :: seen).reverse
  let lower := now.map Char.toLower
  if now = "--".toList then ({ state := .comment .start }, [])
  else if lower = "doctype".toList then ({ state := .doctype {} }, [])
  else if foreign && now = "[CDATA[".toList then ({ state := .literal 0 }, [])
  else if now.isPrefixOf "--".toList || lower.isPrefixOf "doctype".toList ||
      (foreign && now.isPrefixOf "[CDATA[".toList) then ({ state := .declaration (c :: seen) }, [])
  else bogusThen c

def scriptThen (p : ScriptPart) (c : Char) : Scanner × List Token :=
  match p with
  | .endName isEscaped name =>
    if endsName c && ScriptPart.isScript name then
      tagThen .script { isEnd := true, name := "script".toList.reverse } c
    else go (.endName isEscaped name)
  | p => go p
where
  go (p : ScriptPart) : Scanner × List Token :=
    let next := p.feed c
    let read := p.withheld ++ [visible c]
    ({ model := .script, state := .script next },
      charTokens (read.take (read.length - next.withheld.length)))

/-- The scanner after one more character, and the tokens that are complete. `foreign` tells whether the
element around is not one of HTML. -/
def feed (s : Scanner) (foreign : Bool) (c : Char) : Scanner × List Token :=
  match s.state with
  | .content => content s.model c
  | .reference run =>
    if Reference.continues run c then ({ s with state := .reference (c :: run) }, [])
    else textThen (referenceTokens run) s.model c
  | .tagOpen =>
    if c = '!' then ({ s with state := .declaration [] }, [])
    else if c = '/' then ({ s with state := .endTagOpen }, [])
    else if c = '?' then ({ s with state := .bogusComment }, [])
    else if c.isAlpha then ({ s with state := .tag { isEnd := false, name := [c.toLower] } }, [])
    else textThen [.char '<'] s.model c
  | .endTagOpen =>
    if c = '>' then ({}, [.fault])
    else if c.isAlpha then ({ s with state := .tag { isEnd := true, name := [c.toLower] } }, [])
    else ({ s with state := .bogusComment }, [])
  | .tag t => tagThen s.model t c
  | .less =>
    if c = '/' then ({ s with state := .endName [] }, []) else textThen [.char '<'] s.model c
  | .endName name =>
    let lower := name.reverse.map Char.toLower
    let awaited := match s.model with
      | .escapable wanted | .raw wanted => wanted.toList
      | _ => []
    if endsName c && !name.isEmpty && lower = awaited then
      tagThen s.model { isEnd := true, name := lower.reverse } c
    else if c.isAlpha then ({ s with state := .endName (c :: name) }, [])
    else textThen (charTokens ('<' :: '/' :: name.reverse)) s.model c
  | .script p => scriptThen p c
  | .declaration seen => declarationThen foreign seen c
  | .comment p =>
    match p.feed? c with
    | some p => ({ s with state := .comment p }, [])
    | none => ended .comment
  | .bogusComment => bogusThen c
  | .doctype d =>
    match d.feed c with
    | .inl d => ({ s with state := .doctype d }, [])
    | .inr d => ended (.doctype d)
  | .literal brackets =>
    if c = ']' then
      (if brackets = 2 then ({ s with state := .literal 2 }, [.char ']'])
      else ({ s with state := .literal (brackets + 1) }, []))
    else if c = '>' ∧ brackets = 2 then ({}, [])
    else
      ({ s with state := .literal 0 },
        charTokens (List.replicate brackets ']') ++ [if c = '\x00' then .null else .char c])

/-- The tokens that the end of the text completes. -/
def finish (s : Scanner) : List Token :=
  let last := match s.state with
    | .content => []
    | .reference run => referenceTokens run
    | .tagOpen | .less => [.char '<']
    | .endTagOpen => charTokens ['<', '/']
    | .tag _ => []
    | .endName name => charTokens ('<' :: '/' :: name.reverse)
    | .script p => charTokens p.withheld
    | .declaration _ | .comment _ | .bogusComment => [.comment]
    | .doctype d => [.doctype d.finish]
    | .literal brackets => charTokens (List.replicate brackets ']')
  last ++ [.finish]

/-- A text with every line break written as a line feed, and without a byte order mark at its start. -/
def prepared (text : List Char) : List Char :=
  let rec breaks : List Char → List Char
    | [] => []
    | '\r' :: '\n' :: cs => '\n' :: breaks cs
    | '\r' :: cs => '\n' :: breaks cs
    | c :: cs => c :: breaks cs
  breaks (match text with
    | '\uFEFF' :: cs => cs
    | cs => cs)

end Scanner

end Concordance.Html
