import Concordance.Text.CaseData

/-!
Lowercase by Unicode's full default mapping.

Every capital letter is replaced by its small letter; `İ` becomes two characters. A capital sigma
becomes `ς` at the end of a word and `σ` elsewhere. It ends a word when a cased letter comes before it
and none after it, characters that case ignores being passed over on both sides.
-/
namespace Concordance.Text

/-- The small letter of a character by the first run that holds it; the character itself when none does. -/
def lowerBy (n : Nat) : List CaseRun → Nat
  | [] => n
  | r :: runs =>
    if n < r.first then n
    else if n ≤ r.last ∧ (n - r.first) % r.stride = 0 then r.image + (n - r.first)
    else lowerBy n runs

/-- The lowercase of one character outside any context. -/
def lowerChar (c : Char) : List Char :=
  if c.toNat < 0x80 then [c.toLower]
  else if c = 'İ' then ['i', '\u0307']
  else [Char.ofNat (lowerBy c.toNat lowerRuns)]

/-- Whether the first character that case does not ignore is a cased letter. -/
def casedFirst (text : List Char) : Bool :=
  match text.dropWhile caseIgnorable.contains with
  | [] => false
  | c :: _ => cased.contains c

/-- Lowercase of `text`, which stands after the characters `before` (nearest first). -/
def lowerAfter (before : List Char) : List Char → List Char
  | [] => []
  | 'Σ' :: rest =>
    (if casedFirst before && !casedFirst rest then 'ς' else 'σ') :: lowerAfter ('Σ' :: before) rest
  | c :: rest => lowerChar c ++ lowerAfter (c :: before) rest

def lowerOf (text : List Char) : List Char :=
  lowerAfter [] text

def lowercase (text : String) : String :=
  String.ofList (lowerOf text.toList)

end Concordance.Text
