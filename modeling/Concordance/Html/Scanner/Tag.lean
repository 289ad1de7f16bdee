import Concordance.Html.Reference
import Concordance.Html.Token

/-!
Reading a tag, one character at a time.
-/
namespace Concordance.Html

/-- A null character is not kept inside markup. -/
def visible (c : Char) : Char :=
  if c = '\x00' then '\uFFFD' else c

/-- The part of a tag that is being read. A gap between attributes has a slash if the last character was one. -/
inductive TagPart where
  | name
  | gap (slash : Bool)
  | attributeName
  | afterAttributeName
  | beforeValue
  | quoted (mark : Char)
  | unquoted
  deriving DecidableEq, Repr

/-- A tag that is being read. Texts stand with their last character first, attributes with the last one
first. -/
structure OpenTag where
  isEnd : Bool
  name : List Char
  attributes : List Attribute := []
  attributeName : List Char := []
  value : List Char := []
  part : TagPart := .name
  deriving DecidableEq, Repr

namespace OpenTag

/-- Adds the attribute that has been read. Of several with one name the first counts. -/
def withAttribute (t : OpenTag) : OpenTag :=
  if t.attributeName.isEmpty then t
  else
    let name := String.ofList t.attributeName.reverse
    let kept := { t with attributeName := [], value := [] }
    if t.attributes.any (fun a => a.name = name) then kept
    else { kept with attributes := ⟨name, String.ofList (Reference.decodeValue t.value.reverse)⟩ :: t.attributes }

def close (t : OpenTag) (selfClosing : Bool) : Tag :=
  { isEnd := t.isEnd, name := String.ofList t.name.reverse, attributes := t.withAttribute.attributes.reverse,
    selfClosing }

def begin (t : OpenTag) (c : Char) : OpenTag :=
  { t.withAttribute with attributeName := [(visible c).toLower], part := .attributeName }

/-- The tag after one more character: still open, or ended. -/
def feed (t : OpenTag) (c : Char) : OpenTag ⊕ Tag :=
  match t.part with
  | .name =>
    if isSpace c then .inl { t with part := .gap false }
    else if c = '/' then .inl { t with part := .gap true }
    else if c = '>' then .inr (t.close false)
    else .inl { t with name := (visible c).toLower :: t.name }
  | .gap slash =>
    if isSpace c then .inl { t with part := .gap false }
    else if c = '/' then .inl { t with part := .gap true }
    else if c = '>' then .inr (t.close slash)
    else .inl (t.begin c)
  | .attributeName =>
    if isSpace c then .inl { t with part := .afterAttributeName }
    else if c = '/' then .inl { t with part := .gap true }
    else if c = '=' then .inl { t with part := .beforeValue }
    else if c = '>' then .inr (t.close false)
    else .inl { t with attributeName := (visible c).toLower :: t.attributeName }
  | .afterAttributeName =>
    if isSpace c then .inl t
    else if c = '/' then .inl { t with part := .gap true }
    else if c = '=' then .inl { t with part := .beforeValue }
    else if c = '>' then .inr (t.close false)
    else .inl (t.begin c)
  | .beforeValue =>
    if isSpace c then .inl t
    else if c = '"' ∨ c = '\'' then .inl { t with part := .quoted c }
    else if c = '>' then .inr (t.close false)
    else .inl { t with value := [visible c], part := .unquoted }
  | .quoted mark =>
    if c = mark then .inl { t with part := .gap false }
    else .inl { t with value := visible c :: t.value }
  | .unquoted =>
    if isSpace c then .inl { t with part := .gap false }
    else if c = '>' then .inr (t.close false)
    else .inl { t with value := visible c :: t.value }

end OpenTag

end Concordance.Html
