import Concordance.Text.Hexadecimal

/-!
Internet addresses in numbers.
-/
namespace Concordance.Url

namespace Ipv4

/-- What a part of an address says: no number, a number too large, or a number. -/
inductive Part where
  | noNumber
  | tooLarge
  | number (n : Nat)
  deriving DecidableEq, Repr

def numberOf (base : Nat) (digits : List Char) : Part :=
  if digits.all fun c => (Text.hexDigit? c).any (· < base) then
    let n := digits.foldl (fun n c => base * n + (Text.hexDigit? c).getD 0) 0
    if n < 0x100000000 then .number n else .tooLarge
  else .noNumber

/-- A part of an address: decimal, octal after a zero, or hexadecimal after `0x`. -/
def readPart (text : List Char) : Part :=
  match text with
  | [] => .noNumber
  | '0' :: 'x' :: digits | '0' :: 'X' :: digits => numberOf 16 digits
  | '0' :: c :: digits => numberOf 8 (c :: digits)
  | digits => numberOf 10 digits

/-- The parts between dots, without an empty last one. -/
def partsOf (text : List Char) : List (List Char) :=
  let parts := text.splitOn '.'
  if parts.getLast? = some [] then parts.dropLast else parts

/-- Whether a host name is to be read as an address, because its last part is a number. -/
def isMeant (text : List Char) : Bool :=
  match (partsOf text).getLast? with
  | none => false
  | some last => (!last.isEmpty && last.all Char.isDigit) || readPart last ≠ .noNumber

/-- The number of an address whose parts but the last stand for one byte each, from the highest on. -/
def combine? (bytes : List Nat) (last : Nat) : Option Nat :=
  if bytes.length ≤ 3 ∧ bytes.all (· < 256) ∧ last < Nat.pow 256 (4 - bytes.length) then
    some (bytes.foldl (fun n b => 256 * n + b) 0 * Nat.pow 256 (4 - bytes.length) + last)
  else none

def Part.number? : Part → Option Nat
  | number n => some n
  | _ => none

def read? (text : List Char) : Option Nat := do
  let numbers ← (partsOf text).mapM fun part => (readPart part).number?
  combine? numbers.dropLast (← numbers.getLast?)

def render (n : Nat) : String :=
  String.intercalate "." ([0x1000000, 0x10000, 0x100, 1].map fun weight => toString (n / weight % 256))

end Ipv4

namespace Ipv6

/-- One of the eight groups of an address: up to four hexadecimal digits. -/
def readGroup? (text : List Char) : Option Nat :=
  if !text.isEmpty && text.length ≤ 4 && text.all (fun c => (Text.hexDigit? c).isSome) then
    some (Text.hexNumber text)
  else none

def readByte? (text : List Char) : Option Nat :=
  if !text.isEmpty && text.length ≤ 3 && text.all Char.isDigit && (text.length = 1 || text.head? ≠ some '0') then
    let n := text.foldl (fun n c => 10 * n + (Text.hexDigit? c).getD 0) 0
    if n < 256 then some n else none
  else none

/-- The last part of an address: one group, or four decimal numbers for two. -/
def readLast? (text : List Char) : Option (List Nat) :=
  if text.contains '.' then
    match (text.splitOn '.').mapM readByte? with
    | some [a, b, c, d] => some [256 * a + b, 256 * c + d]
    | _ => none
  else (readGroup? text).map ([·])

def readGroups? (text : List Char) (isEnd : Bool) : Option (List Nat) :=
  if text.isEmpty then some []
  else
    let parts := text.splitOn ':'
    match parts.getLast? with
    | some last => do
      let before ← parts.dropLast.mapM readGroup?
      let last ← if isEnd then readLast? last else (readGroup? last).map ([·])
      pure (before ++ last)
    | none => none

def splitGap? : List Char → Option (List Char × List Char)
  | ':' :: ':' :: rest => some ([], rest)
  | c :: rest => (splitGap? rest).map fun (before, after) => (c :: before, after)
  | [] => none

/-- The eight groups of an address. Two colons stand for as many zeros as are missing, at least one. -/
def read? (text : List Char) : Option (List Nat) :=
  match splitGap? text with
  | some (before, after) => do
    let before ← readGroups? before false
    let after ← readGroups? after true
    if before.length + after.length ≤ 7 then
      some (before ++ List.replicate (8 - before.length - after.length) 0 ++ after)
    else none
  | none => (readGroups? text true).filter (·.length = 8)

def zeros (groups : List Nat) : Nat := (groups.takeWhile (· = 0)).length

/-- The place and length of the first longest run of zeros. -/
def longestGap (groups : List Nat) : Nat × Nat :=
  (List.range groups.length).foldl (fun best place =>
    let length := zeros (groups.drop place)
    if best.2 < length then (place, length) else best) (0, 0)

def renderGroups (groups : List Nat) : String :=
  String.intercalate ":" (groups.map fun n => String.ofList (Nat.toDigits 16 n))

/-- An address with its longest run of zeros left out, if there is more than one. -/
def render (groups : List Nat) : String :=
  let (place, length) := longestGap groups
  if length < 2 then renderGroups groups
  else renderGroups (groups.take place) ++ "::" ++ renderGroups (groups.drop (place + length))

end Ipv6

end Concordance.Url
