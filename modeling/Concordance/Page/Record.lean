import Concordance.Json.Record
import Concordance.Page.Basic

/-!
Pages as JSON.

The kind of a page may be missing, and stands for markup then. Kinds that are not known are read as
plain text.
-/
namespace Concordance.Page

def Kind.ofName (name : String) : Kind :=
  if name = "html" then .html else if name = "pdf" then .pdf else .text

/-- A name, or an object with the name as its only key and nothing as its value. -/
def Kind.reader : Json.Reader Kind := do
  let b ← Json.Reader.first
  if b = Json.byte '"' then
    pure (Kind.ofName (← Json.Reader.text))
  else if b = Json.byte '\x7b' then
    Json.Reader.skip
    let b ← Json.Reader.first
    let name ← if b = Json.byte '"' then Json.Reader.text else Json.Reader.mismatch "variant identifier" b
    Json.Reader.colon
    Json.Reader.unit
    match ← Json.Reader.look with
    | none => throw .endInObject
    | some b => if b = Json.byte '\x7d' then Json.Reader.skip else throw .expectedValue
    pure (Kind.ofName name)
  else throw .expectedValue

structure Partial where
  url : Option String := none
  text : Option String := none
  kind : Option Kind := none

def jsonRecord : Json.Record Partial Page where
  title := "struct CrawledPage"
  needed := 2
  start := {}
  fields := [
    { name := "url", taken := fun p => p.url.isSome,
      read := fun p => do pure { p with url := some (← Json.Reader.text) } },
    { name := "text", taken := fun p => p.text.isSome,
      read := fun p => do pure { p with text := some (← Json.Reader.text) } },
    { name := "type", taken := fun p => p.kind.isSome,
      read := fun p => do pure { p with kind := some (← Kind.reader) } }]
  finish := fun p => do
    let url ← Json.required "url" p.url
    let text ← Json.required "text" p.text
    pure { url, text, kind := p.kind.getD .html }

def ofJson (bytes : Bytes) : Except Json.Fault Page :=
  Json.Reader.whole jsonRecord.reader bytes

end Concordance.Page
