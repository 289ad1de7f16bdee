import Concordance.Json.Reader

/-!
Numbers in JSON.

Whole numbers are exact while they fit 64 bits. All others, and a negative zero, are the nearest double;
a number that no finite double is near is refused.
-/
namespace Concordance.Json

/-- A number as it is kept after reading: a whole number from 0 to 2^64 - 1, the size of a negative one down
to -2^63, or a double. -/
inductive Number where
  | natural (value : Nat)
  | negative (value : Nat)
  | real (value : Float)

def Number.found : Number → Found
  | natural n => .integer n
  | negative n => .integer (-n)
  | real x => .real x

def digitsValue (digits : Bytes) : Nat :=
  digits.foldl (fun n d => 10 * n + (d.toNat - 0x30)) 0

namespace Reader

/-- The digits before the point: a zero alone, or digits that start with another one. -/
def wholeDigits : Reader Bytes := do
  match ← peek? with
  | none => throw .endInValue
  | some b =>
    if b = byte '0' then
      skip
      match ← peek? with
      | some d => if isDigit d then throw .invalidNumber else pure [b]
      | none => pure [b]
    else if isDigit b then digits
    else throw .invalidNumber

/-- The digits after the point, of which there has to be one. -/
def fractionDigits : Reader Bytes := do
  let taken ← digits
  if taken ≠ [] then pure taken
  else match ← peek? with
    | some _ => throw .invalidNumber
    | none => throw .endInValue

def exponent : Reader Int := do
  let sign ← peek?
  if sign = some (byte '+') ∨ sign = some (byte '-') then skip
  match ← peek? with
  | none => throw .endInValue
  | some b =>
    if isDigit b then
      let n : Int := digitsValue (← digits)
      pure (if sign = some (byte '-') then -n else n)
    else throw .invalidNumber

def atExponent : Reader Bool := do
  let b ← peek?
  pure (b = some (byte 'e') ∨ b = some (byte 'E'))

/-- The nearest double, unless it is infinite. -/
def finite (negative : Bool) (coefficient : Nat) (exponent : Int) : Reader Number := do
  let x := Decimal.toFloat negative coefficient exponent
  if x.isInf then throw .numberOutOfRange else pure (.real x)

def unsigned (negative : Bool) : Reader Number := do
  let front ← wholeDigits
  let point := (← peek?) = some (byte '.')
  let back ← if point then do skip; fractionDigits else pure []
  if ← atExponent then
    skip
    let e ← exponent
    finite negative (digitsValue (front ++ back)) (e - back.length)
  else if point then finite negative (digitsValue (front ++ back)) (-(back.length : Int))
  else
    let n := digitsValue front
    if negative then
      if 0 < n ∧ n ≤ 0x8000000000000000 then pure (.negative n) else finite true n 0
    else if n < 0x10000000000000000 then pure (.natural n)
    else finite false n 0

/-- A number, whose first byte is a minus sign or a digit. -/
def number : Reader Number := do
  if (← peek?) = some (byte '-') then
    skip
    unsigned true
  else unsigned false

end Reader

end Concordance.Json
