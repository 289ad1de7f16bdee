import Concordance.Url.Address
import Concordance.Url.Domain
import Concordance.Url.Percent

/-!
Hosts of addresses.
-/
namespace Concordance.Url

/-- Where a page is served. A name that only its scheme understands may be empty. -/
inductive Host where
  | domain (name : String)
  | ipv4 (n : Nat)
  | ipv6 (groups : List Nat)
  | named (name : String)
  deriving DecidableEq, Repr

namespace Host

def render : Host → String
  | domain name | named name => name
  | ipv4 n => Ipv4.render n
  | ipv6 groups => "[" ++ Ipv6.render groups ++ "]"

def bracketed? (inner : List Char) : Option Host :=
  match inner.getLast? with
  | some ']' => (Ipv6.read? inner.dropLast).map ipv6
  | _ => none

/-- A host of the web: an address in numbers, or a domain name. -/
def read? (text : List Char) : Option Host :=
  match text with
  | '[' :: inner => bracketed? inner
  | _ => do
    let name ← Domain.toAscii? (← Text.ofUtf8? (Percent.decode text)).toList
    if name.isEmpty then none
    else if Ipv4.isMeant name then (Ipv4.read? name).map ipv4
    else some (domain (String.ofList name))

def isForbiddenInName (c : Char) : Bool :=
  ['\x00', '\t', '\n', '\r', ' ', '#', '/', ':', '<', '>', '?', '@', '[', '\\', ']', '^', '|'].contains c

def readNamed? (text : List Char) : Option Host :=
  match text with
  | '[' :: inner => bracketed? inner
  | _ =>
    if text.any isForbiddenInName then none
    else some (named (Percent.encode Percent.isControl text))

end Host

end Concordance.Url
