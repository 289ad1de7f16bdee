import Std.Data.HashMap
import Std.Data.HashSet
import Concordance.Html.ReferenceData
import Concordance.Text.Hexadecimal

/-!
Character references.

A reference is `&#65;`, `&#x41;` or `&amp;`, and some names are read without the semicolon. `decodeRun`
reads the run of characters that can belong to one reference, and leaves what is not part of it as it
is. In the value of an attribute, a name without a semicolon is left alone before a letter, a digit or
an equals sign, so that addresses with a query survive.
-/
namespace Concordance.Html.Reference

/-- The number at the start of some characters, and what follows it; none without a digit. -/
def number? (base : Nat) (cs : List Char) : Option (Nat × List Char) :=
  let isDigit (c : Char) : Bool := (Text.hexDigit? c).any (· < base)
  match cs.takeWhile isDigit with
  | [] => none
  | digits => some (digits.foldl (fun n d => base * n + (Text.hexDigit? d).getD 0) 0, cs.dropWhile isDigit)

/-- The characters that code points 128 to 159 stand for, by a custom older than Unicode. -/
def legacyCodes : List Nat :=
  [0x20AC, 0x81, 0x201A, 0x192, 0x201E, 0x2026, 0x2020, 0x2021, 0x2C6, 0x2030, 0x160, 0x2039, 0x152,
    0x8D, 0x17D, 0x8F, 0x90, 0x2018, 0x2019, 0x201C, 0x201D, 0x2022, 0x2013, 0x2014, 0x2DC, 0x2122,
    0x161, 0x203A, 0x153, 0x9D, 0x17E, 0x178]

def characterOf (n : Nat) : Char :=
  if n = 0 ∨ 0x10FFFF < n ∨ (0xD800 ≤ n ∧ n ≤ 0xDFFF) then '\uFFFD'
  else if 0x80 ≤ n ∧ n ≤ 0x9F then Char.ofNat (legacyCodes.getD (n - 0x80) n)
  else Char.ofNat n

def named : Std.HashMap String (List Char) :=
  (namedCharacterLines.flatMap fun line => line.toList.splitOn ' ').foldl (fun table item =>
    let name := String.ofList (item.takeWhile (· ≠ '='))
    let codes := (item.dropWhile (· ≠ '=')).drop 1
    table.insert name ((codes.splitOn '+').map fun code => Char.ofNat (Text.hexNumber code))) ∅

/-- The names that are read without a semicolon. -/
def bareNames : Std.HashSet String :=
  Std.HashSet.ofList (bareNameLines.flatMap fun line => (line.toList.splitOn ' ').map String.ofList)

/-- What a whole name with or without its semicolon stands for. -/
def namedExactly? (name : List Char) : Option (List Char) :=
  match name.getLast? with
  | some ';' => named[String.ofList name.dropLast]?
  | _ =>
    let name := String.ofList name
    if bareNames.contains name then named[name]? else none

/-- The longest name at the start of a run, no longer than `length`: what it stands for, how long it is. -/
def longestName? (run : List Char) : Nat → Option (List Char × Nat)
  | 0 => none
  | length + 1 =>
    match namedExactly? (run.take (length + 1)) with
    | some characters => some (characters, length + 1)
    | none => longestName? run length

/-- No name is longer. -/
def nameLimit : Nat := 32

/-- What a run stands for. It is `unended` if a reference was read that has no semicolon. -/
structure Decoded where
  characters : List Char
  unended : Bool := false
  deriving DecidableEq, Repr

/-- Where a reference stands: between tags, or in the value of an attribute, before a character that
cannot belong to the reference or at the end. -/
inductive Place where
  | content
  | value (next : Option Char)
  deriving DecidableEq, Repr

/-- Whether a name without a semicolon is left alone, given what follows it in its run. -/
def Place.guards (place : Place) (rest : List Char) : Bool :=
  match place, rest with
  | content, _ => false
  | value next, [] => next = some '='
  | value _, c :: _ => c.isAlphanum

def decodeNumber (mark : List Char) (base : Nat) (cs : List Char) : Decoded :=
  match number? base cs with
  | none => { characters := '&' :: mark ++ cs }
  | some (n, ';' :: rest) => { characters := characterOf n :: rest }
  | some (n, rest) => { characters := characterOf n :: rest, unended := true }

def decodeName (place : Place) (run : List Char) : Decoded :=
  match longestName? run (min nameLimit run.length) with
  | none => { characters := '&' :: run }
  | some (characters, length) =>
    let unended : Bool := (run.take length).getLast? ≠ some ';'
    if unended && place.guards (run.drop length) then { characters := '&' :: run }
    else { characters := characters ++ run.drop length, unended }

/-- The characters that a run after an ampersand stands for, together with the ampersand. -/
def decodeRun (place : Place) (run : List Char) : Decoded :=
  match run with
  | '#' :: 'x' :: cs => decodeNumber ['#', 'x'] 16 cs
  | '#' :: 'X' :: cs => decodeNumber ['#', 'X'] 16 cs
  | '#' :: cs => decodeNumber ['#'] 10 cs
  | run => decodeName place run

/-- Whether a run after an ampersand, last character first, goes on with a character. A semicolon ends
it, a hash may only begin it. -/
def continues (run : List Char) (c : Char) : Bool :=
  if c = '#' then run.isEmpty
  else (c.isAlphanum || c = ';') && run.head? ≠ some ';'

/-- The rest of an attribute's value with its references read. The first argument is the run after the
last ampersand, last character first, if that is still going on. -/
def decodeRest : Option (List Char) → List Char → List Char
  | none, [] => []
  | some run, [] => (decodeRun (.value none) run.reverse).characters
  | none, c :: cs => if c = '&' then decodeRest (some []) cs else c :: decodeRest none cs
  | some run, c :: cs =>
    if continues run c then decodeRest (some (c :: run)) cs
    else
      (decodeRun (.value (some c)) run.reverse).characters ++
        (if c = '&' then decodeRest (some []) cs else c :: decodeRest none cs)

def decodeValue (value : List Char) : List Char :=
  decodeRest none value

end Concordance.Html.Reference
