import Concordance.Url.Host
import Concordance.Url.Path

/-!
Addresses of pages.
-/
namespace Concordance

namespace Url

structure Authority where
  username : String := ""
  password : Option String := none
  host : Host
  portNumber : Option Nat := none
  deriving DecidableEq, Repr

namespace Authority

/-- The user's name and password, with the sign after them. -/
def userinfo (a : Authority) : String :=
  match a.password with
  | some password => a.username ++ ":" ++ password ++ "@"
  | none => if a.username.isEmpty then "" else a.username ++ "@"

def render (a : Authority) : String :=
  a.userinfo ++ a.host.render ++
    match a.portNumber with
    | some n => ":" ++ toString n
    | none => ""

end Authority

end Url

/-- The address of a page in its parts, each encoded as it is written. -/
structure Url where
  scheme : String
  authority : Option Url.Authority := none
  path : Url.Path
  query : Option String := none
  fragment : Option String := none
  deriving DecidableEq, Repr

namespace Url

/-- An address as text. A path that begins with two slashes must not look like an authority. -/
def render (u : Url) : String :=
  let authority := match u.authority with
    | some authority => "//" ++ authority.render
    | none => if "//".toList.isPrefixOf u.path.render.toList then "/." else ""
  let part (mark : String) : Option String → String
    | some text => mark ++ text
    | none => ""
  u.scheme ++ ":" ++ authority ++ u.path.render ++ part "?" u.query ++ part "#" u.fragment

end Url

end Concordance
