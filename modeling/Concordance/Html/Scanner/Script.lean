import Concordance.Html.Scanner.Tag

/-!
Where a script ends.

The end tag of a script counts, unless it stands in a comment that itself holds the start tag of a
script: there it ends only that one.
-/
namespace Concordance.Html

/-- The part of a script that is being read. Numbers count the dashes just before, up to two; names stand
last character first. -/
inductive ScriptPart where
  | plain
  | less
  | endName (escaped : Bool) (name : List Char)
  | opening (dashes : Nat)
  | escaped (dashes : Nat)
  | escapedLess
  | innerName (name : List Char)
  | inner (dashes : Nat)
  | innerLess
  | innerEndName (name : List Char)
  deriving DecidableEq, Repr

namespace ScriptPart

/-- A name, whatever the case of its letters, is that of a script. -/
def isScript (name : List Char) : Bool :=
  name.reverse.map Char.toLower = "script".toList

/-- After a character in an escaped part. -/
def escapedBy (dashes : Nat) (c : Char) : ScriptPart :=
  if c = '-' then escaped (min 2 (dashes + 1))
  else if c = '<' then escapedLess
  else if c = '>' ∧ dashes = 2 then plain
  else escaped 0

def innerBy (dashes : Nat) (c : Char) : ScriptPart :=
  if c = '-' then inner (min 2 (dashes + 1))
  else if c = '<' then innerLess
  else if c = '>' ∧ dashes = 2 then plain
  else inner 0

def plainBy (c : Char) : ScriptPart :=
  if c = '<' then less else plain

/-- After a character that cannot end a script. -/
def feed (p : ScriptPart) (c : Char) : ScriptPart :=
  match p with
  | plain => plainBy c
  | less =>
    if c = '/' then endName false [] else if c = '!' then opening 0 else plainBy c
  | endName isEscaped name =>
    if c.isAlpha then endName isEscaped (c :: name)
    else if isEscaped then escapedBy 0 c
    else plainBy c
  | opening dashes =>
    if c = '-' then (if dashes = 0 then opening 1 else escaped 2) else plainBy c
  | escaped dashes => escapedBy dashes c
  | escapedLess =>
    if c = '/' then endName true [] else if c.isAlpha then innerName [c] else escapedBy 0 c
  | innerName name =>
    if isSpace c || c = '/' || c = '>' then (if isScript name then inner 0 else escaped 0)
    else if c.isAlpha then innerName (c :: name)
    else escapedBy 0 c
  | inner dashes => innerBy dashes c
  | innerLess => if c = '/' then innerEndName [] else innerBy 0 c
  | innerEndName name =>
    if isSpace c || c = '/' || c = '>' then (if isScript name then escaped 0 else inner 0)
    else if c.isAlpha then innerEndName (c :: name)
    else innerBy 0 c

/-- The characters that are withheld while they may begin an end tag. -/
def withheld (p : ScriptPart) : List Char :=
  match p with
  | less | escapedLess => ['<']
  | endName _ name => '<' :: '/' :: name.reverse
  | _ => []

end ScriptPart

end Concordance.Html
