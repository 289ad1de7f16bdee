/-!
Numbers in hexadecimal digits.
-/
namespace Concordance.Text

def hexDigit? (c : Char) : Option Nat :=
  if '0' ≤ c ∧ c ≤ '9' then some (c.toNat - '0'.toNat)
  else if 'a' ≤ c ∧ c ≤ 'f' then some (c.toNat - 'a'.toNat + 10)
  else if 'A' ≤ c ∧ c ≤ 'F' then some (c.toNat - 'A'.toNat + 10)
  else none

def hexNumber (digits : List Char) : Nat :=
  digits.foldl (fun n d => 16 * n + (hexDigit? d).getD 0) 0

/-- The characters whose code points stand, in hexadecimal, in an entry of a table, with an equals sign
after the first and plus signs between the others. -/
def hexadecimals (entry : List Char) : List Char :=
  (entry.splitOnP (fun c => c = '=' || c = '+')).map fun digits => Char.ofNat (hexNumber digits)

end Concordance.Text
