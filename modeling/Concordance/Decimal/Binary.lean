/-!
Doubles as exact numbers.

A finite double is `mantissa * 2 ^ exponent` with a mantissa below 2^53, so everything about it can be
said in whole numbers: `Magnitude.ofBits` takes a bit pattern apart, and `nearestBits` gives the pattern
nearest to a fraction.
-/
namespace Concordance.Decimal

/-- The number `numerator / denominator`. -/
structure Fraction where
  numerator : Nat
  denominator : Nat
  deriving DecidableEq, Repr

namespace Fraction

/-- The number `n * base ^ exponent`. -/
def scaled (n base : Nat) (exponent : Int) : Fraction :=
  if 0 ≤ exponent then ⟨n * Nat.pow base exponent.toNat, 1⟩ else ⟨n, Nat.pow base (-exponent).toNat⟩

def le (a b : Fraction) : Bool :=
  decide (a.numerator * b.denominator ≤ b.numerator * a.denominator)

def lt (a b : Fraction) : Bool :=
  decide (a.numerator * b.denominator < b.numerator * a.denominator)

/-- The largest `k`, found from an estimate at most `tries` too small, with `base ^ k ≤ x`. -/
def floorLogFrom (x : Fraction) (base : Nat) : Nat → Int → Int
  | 0, k => k
  | tries + 1, k => if le (scaled 1 base (k + 1)) x then floorLogFrom x base tries (k + 1) else k

/-- The largest `k` with `2 ^ k ≤ x`, for a positive `x`. -/
def floorLog2 (x : Fraction) : Int :=
  floorLogFrom x 2 2 ((x.numerator.log2 : Int) - x.denominator.log2 - 1)

def floorLog10 (x : Fraction) : Int :=
  floorLogFrom x 10 3 ((((x.numerator.log2 : Int) - x.denominator.log2) * 30103).fdiv 100000 - 2)

end Fraction

/-- What 52 bits hold is below this: 2 to the 52nd. -/
def fractionLimit : Nat := 0x10000000000000

/-- The bit that a negative double has set: 2 to the 63rd. -/
def signBit : Nat := 0x8000000000000000

/-- The size of a finite double: `mantissa * 2 ^ exponent`. -/
structure Magnitude where
  mantissa : Nat
  exponent : Int
  deriving DecidableEq, Repr

namespace Magnitude

/-- What 63 bits stand for: eleven bits of exponent and 52 of fraction. -/
def ofBits (bits : Nat) : Magnitude :=
  let biased : Nat := bits / fractionLimit
  let fraction := bits % fractionLimit
  if biased = 0 then ⟨fraction, -1074⟩ else ⟨fraction + fractionLimit, (biased : Int) - 1075⟩

def value (m : Magnitude) : Fraction :=
  .scaled m.mantissa 2 m.exponent

/-- Half way to the next larger double. -/
def upper (m : Magnitude) : Fraction :=
  .scaled (4 * m.mantissa + 2) 2 (m.exponent - 2)

/-- Half way to the next smaller double, which is nearer just above a power of two. -/
def lower (m : Magnitude) : Fraction :=
  if m.mantissa = fractionLimit ∧ -1074 < m.exponent then .scaled (4 * m.mantissa - 1) 2 (m.exponent - 2)
  else .scaled (4 * m.mantissa - 2) 2 (m.exponent - 2)

/-- Whether reading `x` gives this double. The two ends belong to it if its mantissa is even. -/
def reads (m : Magnitude) (x : Fraction) : Bool :=
  if m.mantissa % 2 = 0 then m.lower.le x && x.le m.upper else m.lower.lt x && x.lt m.upper

end Magnitude

def infinityBits : Nat := 2047 * fractionLimit

/-- `a / b` rounded to the nearest whole number, a half going to the even one. -/
def roundHalfEven (a b : Nat) : Nat :=
  let q := a / b
  let twice := 2 * (a % b)
  if twice < b then q else if b < twice then q + 1 else q + q % 2

/-- The bits of the double nearest to a fraction; from half way above the largest double, infinity. -/
def nearestBits (x : Fraction) : Nat :=
  if x.numerator = 0 then 0
  else
    let exponent := max (-1074) (x.floorLog2 - 52)
    let mantissa :=
      if 0 ≤ exponent then roundHalfEven x.numerator (x.denominator * Nat.pow 2 exponent.toNat)
      else roundHalfEven (x.numerator * Nat.pow 2 (-exponent).toNat) x.denominator
    let bits := if mantissa < fractionLimit then mantissa
      else (exponent + 1075).toNat * fractionLimit + (mantissa - fractionLimit)
    min bits infinityBits

/-- The double nearest to `coefficient * 10 ^ exponent`, with a sign. An exponent beyond any double
decides the answer without the power being worked out. -/
def toFloat (negative : Bool) (coefficient : Nat) (exponent : Int) : Float :=
  let digits : Int := (Nat.toDigits 10 coefficient).length
  let bits :=
    if coefficient = 0 ∨ digits + exponent < -400 then 0
    else if 400 < digits + exponent then infinityBits
    else nearestBits (.scaled coefficient 10 exponent)
  Float.ofBits (UInt64.ofNat (if negative then bits + signBit else bits))

end Concordance.Decimal
