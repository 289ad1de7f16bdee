import Concordance.Html.Lenient
import Concordance.Html.Rules.Mode
import Concordance.Html.Scanner

/-!
From the text of a page to its tree.
-/
namespace Concordance.Html

namespace Builder

/-- Reads a token by one set of rules after another until it is settled. -/
def settle : Nat → Builder → Token → Builder
  | 0, b, _ => b
  | attempts + 1, b, token =>
    match if b.belongsToForeign token then b.stepForeign token else b.step token with
    | .done b => b
    | .again b token => settle attempts b token

/-- How often one token can be read again: each time an element is left or the mode moves on. -/
def attempts (b : Builder) : Nat := 64 + 2 * b.stack.length

/-- The tree after one more token. A comment has no place in it, but it ends text in a table. -/
def take (b : Builder) (token : Token) : Builder :=
  let skips := b.skipsBreak
  let b := { b with skipsBreak := false, model := none }
  match token with
  | .fault => b
  | .comment => if b.mode = .inTableText then b.flushTableText else b
  | .doctype d => if b.mode = .initial then { b with lenient := d.isOld, mode := .beforeHtml } else b
  | .char c => if skips && c = '\n' then b else settle b.attempts b token
  | _ => settle b.attempts b token

end Builder

structure Reading where
  scanner : Scanner := {}
  builder : Builder := {}

namespace Reading

/-- The page after some tokens, the scanner standing after them. -/
def take (scanner : Scanner) (builder : Builder) (tokens : List Token) : Reading :=
  let builder := tokens.foldl Builder.take builder
  match tokens, builder.model with
  | [], _ | _, none => { scanner, builder }
  | _, some model => { scanner := Scanner.ofModel model, builder }

def feed (r : Reading) (c : Char) : Reading :=
  let (scanner, tokens) := r.scanner.feed r.builder.isForeign c
  take scanner r.builder tokens

def finish (r : Reading) : List Node :=
  (r.scanner.finish.foldl Builder.take r.builder).arena.document

end Reading

def parse (page : String) : List Node :=
  ((Scanner.prepared page.toList).foldl Reading.feed {}).finish

end Concordance.Html
