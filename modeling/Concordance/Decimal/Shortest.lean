import Concordance.Decimal.Binary

/-!
The fewest decimal digits that read back as a given double.

For one digit, two digits and so on, the two numbers with so many digits on either side of the double are
tried. The first count for which one of them reads back wins; of two the nearer is taken, and a rule is
needed only when both are equally near. Seventeen digits always suffice.
-/
namespace Concordance.Decimal

/-- Where a tie between two neighbouring digit strings goes. -/
inductive Tie where
  | up
  | even
  deriving DecidableEq, Repr

/-- The number `coefficient * 10 ^ exponent`. -/
structure Digits where
  coefficient : Nat
  exponent : Int
  deriving DecidableEq, Repr

namespace Digits

def value (d : Digits) : Fraction :=
  .scaled d.coefficient 10 d.exponent

/-- The same number without the zeros its coefficient ends with; at most `count` of them. -/
def stripped (d : Digits) : Nat → Digits
  | 0 => d
  | count + 1 =>
    if d.coefficient ≠ 0 ∧ d.coefficient % 10 = 0 then
      stripped ⟨d.coefficient / 10, d.exponent + 1⟩ count
    else d

end Digits

namespace Magnitude

/-- The number of the form `c * 10 ^ k` that reads back as the double and is nearest to it, among the two
on either side of it. -/
def onGrid? (m : Magnitude) (tie : Tie) (k : Int) : Option Digits :=
  let unit := Fraction.scaled 1 10 k
  let top := m.value.numerator * unit.denominator
  let bottom := m.value.denominator * unit.numerator
  let below := top / bottom
  let remainder := top % bottom
  let low : Digits := ⟨below, k⟩
  let high : Digits := ⟨below + 1, k⟩
  match m.reads low.value, m.reads high.value with
  | true, true =>
    if 2 * remainder < bottom then some low
    else if bottom < 2 * remainder then some high
    else match tie with
      | .up => some high
      | .even => some (if below % 2 = 0 then low else high)
  | true, false => some low
  | false, true => some high
  | false, false => none

/-- The first grid that has a number, from `k` downwards. -/
def firstGrid (m : Magnitude) (tie : Tie) : Nat → Int → Digits
  | 0, _ => ⟨m.mantissa, m.exponent⟩
  | tries + 1, k =>
    match m.onGrid? tie k with
    | some d => d
    | none => firstGrid m tie tries (k - 1)

/-- The fewest digits that read back as a positive double. -/
def shortest (m : Magnitude) (tie : Tie) : Digits :=
  (m.firstGrid tie 17 m.value.floorLog10).stripped 20

end Magnitude

end Concordance.Decimal
