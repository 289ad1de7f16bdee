import Std.Data.HashMap
import Concordance.Text.ComposedData
import Concordance.Text.Hexadecimal

/-!
Canonical composition: one spelling for texts that look the same.

Characters are first taken apart, marks put into their canonical order, and then everything composed
again that can be.
-/
namespace Concordance.Text

/-- The two characters that each composed character is made of, by its code point. -/
def parts : Std.HashMap Nat (Char × Char) :=
  (composedLines.flatMap fun line => line.toList.splitOn ' ').foldl (fun table item =>
    match hexadecimals item with
    | [whole, first, second] => table.insert whole.toNat (first, second)
    | _ => table) ∅

/-- The composed character of each two, by their code points. -/
def wholes : Std.HashMap (Nat × Nat) Char :=
  parts.fold (fun table whole pair => table.insert (pair.1.toNat, pair.2.toNat) (Char.ofNat whole)) ∅

/-- How a mark stands to others on the same letter; zero if the character is no such mark. -/
def combiningClass (c : Char) : Nat :=
  if c.toNat < 0x300 then 0
  else ((combiningClasses.find? fun entry => entry.2.contains c).map Prod.fst).getD 0

/-- The letters that a syllable of the Korean script is made of. -/
def syllableParts? (c : Char) : Option (List Char) :=
  if 0xAC00 ≤ c.toNat ∧ c.toNat ≤ 0xD7A3 then
    let i := c.toNat - 0xAC00
    let last := i % 28
    some ([Char.ofNat (0x1100 + i / 588), Char.ofNat (0x1161 + i % 588 / 28)] ++
      if last = 0 then [] else [Char.ofNat (0x11A7 + last)])
  else none

def syllable? (a b : Char) : Option Char :=
  let a := a.toNat
  let b := b.toNat
  if 0x1100 ≤ a ∧ a ≤ 0x1112 ∧ 0x1161 ≤ b ∧ b ≤ 0x1175 then
    some (Char.ofNat (0xAC00 + ((a - 0x1100) * 21 + (b - 0x1161)) * 28))
  else if 0xAC00 ≤ a ∧ a ≤ 0xD7A3 ∧ (a - 0xAC00) % 28 = 0 ∧ 0x11A8 ≤ b ∧ b ≤ 0x11C2 then
    some (Char.ofNat (a + (b - 0x11A7)))
  else none

/-- A character taken apart, in at most so many steps. -/
def takenApart : Nat → Char → List Char
  | 0, c => [c]
  | steps + 1, c =>
    match syllableParts? c, parts[c.toNat]? with
    | some letters, _ => letters
    | none, some (first, second) => takenApart steps first ++ [second]
    | none, none => [c]

/-- Puts a character before others, behind those that have to stand before it. -/
def insertMark (c : Char) : List Char → List Char
  | [] => [c]
  | d :: rest =>
    if 0 < combiningClass d ∧ combiningClass d < combiningClass c then d :: insertMark c rest
    else c :: d :: rest

/-- A text taken apart, its marks in their order. No character is made in more than four steps. -/
def decomposed (text : List Char) : List Char :=
  (text.flatMap (takenApart 4)).foldr insertMark []

def composed? (a b : Char) : Option Char :=
  (syllable? a b).or wholes[(a.toNat, b.toNat)]?

/-- Composes the rest of a text. `base` is the last letter, `marks` are those after it that stay, last
one first. A mark between keeps those of its own class, and of lower ones, apart from the letter. -/
def composeAfter (base : Char) (marks : List Char) : List Char → List Char
  | [] => base :: marks.reverse
  | c :: rest =>
    let k := combiningClass c
    let joined := if (marks.head?.map combiningClass).all (· < k) then composed? base c else none
    match joined with
    | some whole => composeAfter whole marks rest
    | none =>
      if k = 0 then base :: marks.reverse ++ composeAfter c [] rest
      else composeAfter base (c :: marks) rest

/-- The canonical spelling of a text. -/
def composed (text : List Char) : List Char :=
  let apart := decomposed text
  let leading := apart.takeWhile (fun c => 0 < combiningClass c)
  match apart.drop leading.length with
  | [] => leading
  | c :: rest => leading ++ composeAfter c [] rest

end Concordance.Text
