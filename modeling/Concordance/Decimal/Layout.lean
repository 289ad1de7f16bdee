import Concordance.Decimal.Shortest

/-!
Writing doubles as text.

The digits are always the fewest that read back. A `Layout` says how they are set out: when an exponent is
used and how it looks, whether whole numbers keep a point, and which way a tie between two shortest digit
strings goes.
-/
namespace Concordance.Decimal

/-- How the digits of a number are set out. Whole numbers end in `.0` if it is `pointed`, and positive
exponents have a plus sign if `plus`. The `bounds` of the decimal point, counted from before the first
digit, are the places for which no exponent is written; without bounds there is never one. -/
structure Layout where
  tie : Tie
  pointed : Bool
  bounds : Option (Int × Int)
  plus : Bool
  deriving Repr

/-- Text for people: never an exponent, and whole numbers without a point. -/
def plain : Layout := ⟨.up, false, none, false⟩

/-- Text in data: an exponent below 0.00001 and from 10^16 on, and a point in every number without one. -/
def exact : Layout := ⟨.even, true, some (-4, 16), true⟩

namespace Layout

/-- Digits with the point at a place, counted from before the first digit. -/
def positional (layout : Layout) (digits : List Char) (place : Int) : List Char :=
  if place ≤ 0 then ['0', '.'] ++ List.replicate (-place).toNat '0' ++ digits
  else if (digits.length : Int) ≤ place then
    digits ++ List.replicate (place - digits.length).toNat '0' ++
      (if layout.pointed then ['.', '0'] else [])
  else digits.take place.toNat ++ ['.'] ++ digits.drop place.toNat

/-- Digits with a power of ten: one digit before the point. -/
def scientific (layout : Layout) (digits : List Char) (place : Int) : List Char :=
  let exponent := place - 1
  let mantissa := match digits with
    | [d] => [d]
    | d :: rest => d :: '.' :: rest
    | [] => []
  let sign := if exponent < 0 then ['-'] else if layout.plus then ['+'] else []
  mantissa ++ ['e'] ++ sign ++ Nat.toDigits 10 exponent.natAbs

def digits (layout : Layout) (d : Digits) : List Char :=
  let text := Nat.toDigits 10 d.coefficient
  let place := d.exponent + text.length
  match layout.bounds with
  | none => layout.positional text place
  | some (low, high) =>
    if low ≤ place ∧ place ≤ high then layout.positional text place else layout.scientific text place

def magnitude (layout : Layout) (bits : Nat) : List Char :=
  if bits = 0 then if layout.pointed then ['0', '.', '0'] else ['0']
  else layout.digits ((Magnitude.ofBits bits).shortest layout.tie)

/-- The text of a finite double; nothing for the infinities and for what is no number. -/
def finite? (layout : Layout) (x : Float) : Option String :=
  let bits := x.toBits.toNat
  let rest := bits % signBit
  if infinityBits ≤ rest then none
  else
    let text := layout.magnitude rest
    some (String.ofList (if signBit ≤ bits then '-' :: text else text))

end Layout

def render (x : Float) : String :=
  match plain.finite? x with
  | some text => text
  | none =>
    let bits := x.toBits.toNat
    if infinityBits < bits % signBit then "NaN"
    else if signBit ≤ bits then "-inf" else "inf"

end Concordance.Decimal
