import Concordance.Url.Basic

/-!
Reading addresses.

An address stands on its own: it begins with its scheme. What follows is read as the scheme demands:
schemes of the web need a host and take backslashes for slashes, files may have a host, and other schemes
may have a host or a path of their own kind.
-/
namespace Concordance.Url

inductive Kind where
  | web
  | file
  | other
  deriving DecidableEq, Repr

/-- The schemes of the web with the numbers of their services, which need not be written. -/
def webPorts : List (String × Nat) :=
  [("http", 80), ("https", 443), ("ws", 80), ("wss", 443), ("ftp", 21)]

def kindOf (scheme : String) : Kind :=
  if scheme = "file" then .file
  else if (webPorts.lookup scheme).isSome then .web
  else .other

def splitScheme? (text : List Char) : Option (String × List Char) :=
  let isName (c : Char) : Bool := c.isAlphanum || c = '+' || c = '-' || c = '.'
  let name := text.takeWhile isName
  match name, text.drop name.length with
  | first :: _, ':' :: rest =>
    if first.isAlpha then some (String.ofList (name.map Char.toLower), rest) else none
  | _, _ => none

/-- Whether a path, a query or a fragment begins with a character. -/
def endsAuthority (kind : Kind) (c : Char) : Bool :=
  c = '/' || c = '?' || c = '#' || (kind ≠ .other && c = '\\')

/-- The text of a host and what follows it. Colons between square brackets belong to the host. -/
def splitHost (kind : Kind) : Bool → List Char → List Char × List Char
  | _, [] => ([], [])
  | bracketed, c :: rest =>
    if endsAuthority kind c || (c = ':' && !bracketed) then ([], c :: rest)
    else
      let bracketed := if c = '[' then true else if c = ']' then false else bracketed
      let (host, rest) := splitHost kind bracketed rest
      (c :: host, rest)

/-- The number of a service and what follows it. The number that belongs to the scheme is not kept. -/
def readPort? (scheme : String) (text : List Char) : Option (Option Nat × List Char) :=
  let digits := text.takeWhile Char.isDigit
  let rest := text.drop digits.length
  let number := digits.foldl (fun n c => 10 * n + (c.toNat - '0'.toNat)) 0
  if 65535 < number then none
  else if rest.head?.all fun c => endsAuthority .web c then
    some (if digits.isEmpty || webPorts.lookup scheme = some number then none else some number, rest)
  else none

def readHost? (kind : Kind) (text : List Char) : Option (Host × List Char) :=
  let (host, rest) := splitHost kind false text
  match kind with
  | .other => (Host.readNamed? host).map (·, rest)
  | _ => (Host.read? host).map (·, rest)

/-- A user's name and, if there is anything after the first colon, password. -/
def readUserinfo (text : List Char) : String × Option String :=
  let encode (text : List Char) : String := Percent.encode Percent.inUserinfo text
  let name := text.takeWhile (· ≠ ':')
  let password := text.drop (name.length + 1)
  (encode name, if password.isEmpty then none else some (encode password))

/-- What comes before the last at sign in the part of a text that may be an authority, and after it. -/
def splitUserinfo (kind : Kind) (text : List Char) : Option (List Char) × List Char :=
  let authority := text.takeWhile fun c => !endsAuthority kind c
  let ending := (authority.reverse.takeWhile (· ≠ '@')).length
  if authority.contains '@' then
    let length := authority.length - ending - 1
    (some (text.take length), text.drop (length + 1))
  else (none, text)

/-- An authority and what follows it. A user or a number needs a host. -/
def readAuthority? (scheme : String) (text : List Char) : Option (Authority × List Char) := do
  let kind := kindOf scheme
  let (userinfo, rest) := splitUserinfo kind text
  if userinfo = some [] && (rest.head?.any fun c => endsAuthority kind c) then none
  let (username, password) := readUserinfo (userinfo.getD [])
  let (host, rest) ← readHost? kind rest
  let (portNumber, after) ← match rest with
    | ':' :: digits => readPort? scheme digits
    | _ => some (none, rest)
  let hasUser := !username.isEmpty || password.isSome
  if host = .named "" && (hasUser || rest.head? = some ':') then none
  some ({ username, password, host, portNumber }, after)

def readEnd (kind : Kind) (text : List Char) : Option String × Option String :=
  let fragmentOf : List Char → Option String
    | '#' :: fragment => some (Percent.encode Percent.inFragment fragment)
    | _ => none
  match text with
  | '?' :: rest =>
    let query := rest.takeWhile (· ≠ '#')
    let set := if kind = .other then Percent.inQuery else Percent.inSpecialQuery
    (some (Percent.encode set query), fragmentOf (rest.drop query.length))
  | _ => (none, fragmentOf text)

def withPath (scheme : String) (authority : Option Authority) (text : List Char)
    (read : List Char → Path) : Url :=
  let path := text.takeWhile fun c => c ≠ '?' && c ≠ '#'
  let (query, fragment) := readEnd (kindOf scheme) (text.drop path.length)
  { scheme, authority, path := read path, query, fragment }

/-- An address of the web. Any number of slashes may come before the host. -/
def readWeb? (scheme : String) (text : List Char) : Option Url := do
  let (authority, rest) ← readAuthority? scheme (text.dropWhile fun c => c = '/' || c = '\\')
  some (withPath scheme authority rest fun path => Path.read true (Path.withoutSlash true path))

def pathAfterAuthority (path : List Char) : Path :=
  if path.isEmpty then .segments [] else Path.read false (Path.withoutSlash false path)

def readOther? (scheme : String) (text : List Char) : Option Url :=
  match text with
  | '/' :: '/' :: rest => do
    let (authority, rest) ← readAuthority? scheme rest
    some (withPath scheme authority rest pathAfterAuthority)
  | '/' :: rest => some (withPath scheme none rest (Path.read false))
  | _ => some (withPath scheme none text fun path => .plain (Percent.encode Percent.isControl path))

/-- The host of a file; the local one is not named. -/
def readFileHost? (text : List Char) : Option Host :=
  if text.isEmpty then some (.named "")
  else (Host.read? text).map fun host => if host = .domain "localhost" then .named "" else host

/-- The address of a file with a host, which a path that begins with a drive does away with. -/
def fileWith (host : Host) (text : List Char) : Url :=
  let path := text.takeWhile fun c => c ≠ '?' && c ≠ '#'
  let host := if (Path.readFile path).2 then .named "" else host
  withPath "file" (some { host }) text fun path => (Path.readFile path).1

def readFile? (text : List Char) : Option Url :=
  let isSlash (c : Char) : Bool := c = '/' || c = '\\'
  match text.takeWhile isSlash with
  | [] => some (fileWith (.named "") text)
  | [_] => some (fileWith (.named "") (text.drop 1))
  | _ =>
    let text := text.drop 2
    let host := text.takeWhile fun c => !endsAuthority .file c
    if Path.isDrive host then some (fileWith (.named "") text)
    else (readFileHost? host).map fun named =>
      fileWith named (Path.withoutSlash true (text.drop host.length))

/-- A text without the blanks and controls at its ends, and without line breaks and tabs. -/
def cleaned (text : List Char) : List Char :=
  let isBlank (c : Char) : Bool := c.toNat ≤ 0x20
  let trimmed := ((text.dropWhile isBlank).reverse.dropWhile isBlank).reverse
  trimmed.filter fun c => c ≠ '\t' && c ≠ '\n' && c ≠ '\r'

/-- The address that a text stands for; nothing if it is not one. -/
def parse? (text : String) : Option Url := do
  let (scheme, rest) ← splitScheme? (cleaned text.toList)
  match kindOf scheme with
  | .web => readWeb? scheme rest
  | .file => readFile? rest
  | .other => readOther? scheme rest

end Concordance.Url
