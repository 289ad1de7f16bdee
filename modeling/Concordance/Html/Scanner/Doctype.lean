import Concordance.Html.Scanner.Tag

/-!
Reading comments and document type declarations, one character at a time.
-/
namespace Concordance.Html

inductive CommentPart where
  | start
  | startDash
  | body
  | dash
  | dashes
  | bang
  deriving DecidableEq, Repr

/-- The comment after one more character; none if it has ended. A comment ends after two dashes and a
closing bracket, with an exclamation mark between them or not, or at once. -/
def CommentPart.feed? (p : CommentPart) (c : Char) : Option CommentPart :=
  match p with
  | start => if c = '-' then some startDash else if c = '>' then none else some body
  | startDash => if c = '-' then some dashes else if c = '>' then none else some body
  | body => if c = '-' then some dash else some body
  | dash => if c = '-' then some dashes else some body
  | dashes =>
    if c = '>' then none else if c = '!' then some bang else if c = '-' then some dashes else some body
  | bang => if c = '>' then none else if c = '-' then some dash else some body

/-- The part of a document type that is being read. The letters of a keyword stand last one first; in the rest
nothing counts up to the closing bracket. -/
inductive DoctypePart where
  | beforeName
  | name
  | keyword (letters : List Char)
  | beforeId (system : Bool)
  | id (system : Bool) (mark : Char)
  | afterId (system : Bool)
  | rest
  deriving DecidableEq, Repr

structure OpenDoctype where
  doctype : Doctype := {}
  part : DoctypePart := .beforeName
  deriving DecidableEq, Repr

namespace OpenDoctype

def broken (d : OpenDoctype) : OpenDoctype :=
  { d with doctype := { d.doctype with broken := true }, part := .rest }

def beginId (d : OpenDoctype) (system : Bool) (mark : Char) : OpenDoctype :=
  let doctype := if system then { d.doctype with systemId := some "" } else { d.doctype with publicId := some "" }
  { doctype, part := .id system mark }

def pushId (d : OpenDoctype) (system : Bool) (c : Char) : OpenDoctype :=
  let push (id : Option String) : Option String := id.map (·.push c)
  if system then { d with doctype := { d.doctype with systemId := push d.doctype.systemId } }
  else { d with doctype := { d.doctype with publicId := push d.doctype.publicId } }

/-- The declaration after one more character: still open, or ended. -/
def feed (d : OpenDoctype) (c : Char) : OpenDoctype ⊕ Doctype :=
  match d.part with
  | .beforeName =>
    if isSpace c then .inl d
    else if c = '>' then .inr d.broken.doctype
    else .inl { doctype := { d.doctype with name := some (String.singleton (visible c).toLower) }, part := .name }
  | .name =>
    if isSpace c then .inl { d with part := .keyword [] }
    else if c = '>' then .inr d.doctype
    else .inl { d with doctype := { d.doctype with name := d.doctype.name.map (·.push (visible c).toLower) } }
  | .keyword letters =>
    if letters.isEmpty && isSpace c then .inl d
    else if c = '>' then .inr (if letters.isEmpty then d.doctype else d.broken.doctype)
    else
      let seen := (c.toLower :: letters).reverse
      if seen = "public".toList then .inl { d with part := .beforeId false }
      else if seen = "system".toList then .inl { d with part := .beforeId true }
      else if seen.isPrefixOf "public".toList || seen.isPrefixOf "system".toList then
        .inl { d with part := .keyword (c.toLower :: letters) }
      else .inl d.broken
  | .beforeId system =>
    if isSpace c then .inl d
    else if c = '"' ∨ c = '\'' then .inl (d.beginId system c)
    else if c = '>' then .inr d.broken.doctype
    else .inl d.broken
  | .id system mark =>
    if c = mark then .inl { d with part := .afterId system }
    else if c = '>' then .inr d.broken.doctype
    else .inl (d.pushId system (visible c))
  | .afterId false =>
    if isSpace c then .inl d
    else if c = '>' then .inr d.doctype
    else if c = '"' ∨ c = '\'' then .inl (d.beginId true c)
    else .inl d.broken
  | .afterId true =>
    if isSpace c then .inl d
    else if c = '>' then .inr d.doctype
    else .inl { d with part := .rest }
  | .rest => if c = '>' then .inr d.doctype else .inl d

def finish (d : OpenDoctype) : Doctype :=
  match d.part with
  | .rest => d.doctype
  | _ => d.broken.doctype

end OpenDoctype

end Concordance.Html
