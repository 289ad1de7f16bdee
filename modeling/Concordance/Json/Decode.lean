import Concordance.Json.Number
import Concordance.Json.Quoted
import Concordance.Json.Skip

/-!
Reading values of a given type.

Each reader looks at the first byte of a value. When it cannot start a value of the type, the fault names
what stands there instead, for which a name, a number or a text is read to its end and a bracket is not.
-/
namespace Concordance.Json.Reader

/-- The fault of a value that is not of the expected type, given its first byte. -/
def mismatch {α : Type} (expected : String) (first : UInt8) : Reader α := do
  if first = byte 'n' then
    skip
    name ("ull".toList.map byte)
    throw (.invalidType .null expected)
  else if first = byte 't' then
    skip
    name ("rue".toList.map byte)
    throw (.invalidType (.boolean true) expected)
  else if first = byte 'f' then
    skip
    name ("alse".toList.map byte)
    throw (.invalidType (.boolean false) expected)
  else if first = byte '-' ∨ isDigit first then
    throw (.invalidType (← number).found expected)
  else if first = byte '"' then
    skip
    throw (.invalidType (.text (← textRest)) expected)
  else if first = byte '[' then throw (.invalidType .list expected)
  else if first = byte '\x7b' then throw (.invalidType .object expected)
  else throw .expectedValue

def first : Reader UInt8 := do
  match ← look with
  | some b => pure b
  | none => throw .endInValue

def text : Reader String := do
  let b ← first
  if b = byte '"' then
    skip
    textRest
  else mismatch "a string" b

/-- A whole number from 0 to 2^64 - 1. -/
def natural : Reader Nat := do
  let b ← first
  if b = byte '-' ∨ isDigit b then
    match ← number with
    | .natural n => pure n
    | .negative n => throw (.invalidValue (.integer (-n)) "usize")
    | .real x => throw (.invalidType (.real x) "usize")
  else mismatch "usize" b

def real : Reader Float := do
  let b ← first
  if b = byte '-' ∨ isDigit b then
    match ← number with
    | .natural n => pure (Float.ofNat n)
    | .negative n => pure (-Float.ofNat n)
    | .real x => pure x
  else mismatch "f64" b

def unit : Reader Unit := do
  let b ← first
  if b = byte 'n' then
    skip
    name ("ull".toList.map byte)
  else mismatch "unit" b

/-- Whether a list goes on with another element, which comes first or after a comma. -/
def hasElement (isFirst : Bool) : Reader Bool := do
  match ← look with
  | none => throw .endInList
  | some b =>
    if b = byte ']' then pure false
    else if isFirst then pure true
    else if b = byte ',' then
      skip
      match ← look with
      | none => throw .endInValue
      | some c => if c = byte ']' then throw .trailingComma else pure true
    else throw .expectedCommaOrBracket

def hasKey (isFirst : Bool) : Reader Bool := do
  match ← look with
  | none => throw .endInObject
  | some b =>
    if b = byte '\x7d' then pure false
    else if isFirst then if b = byte '"' then pure true else throw .keyNotText
    else if b = byte ',' then
      skip
      match ← look with
      | none => throw .endInValue
      | some c =>
        if c = byte '"' then pure true
        else if c = byte '\x7d' then throw .trailingComma
        else throw .keyNotText
    else throw .expectedCommaOrBrace

/-- The bracket that ends a list, after the elements that were asked for. -/
def endList : Reader Unit := do
  match ← look with
  | none => throw .endInList
  | some b =>
    if b = byte ']' then skip
    else if b = byte ',' then
      skip
      if (← look) = some (byte ']') then throw .trailingComma else throw .trailingCharacters
    else throw .trailingCharacters

def endObject : Reader Unit := do
  match ← look with
  | none => throw .endInObject
  | some b =>
    if b = byte '\x7d' then skip
    else if b = byte ',' then throw .trailingComma
    else throw .trailingCharacters

def key : Reader String := do
  skip
  textRest

/-- The elements of a list, put in front of `taken`, the last one first. -/
def elements {α : Type} (item : Reader α) : Nat → List α → Reader (List α)
  | 0, _ => throw .endInList
  | fuel + 1, taken => do
    if ← hasElement taken.isEmpty then elements item fuel ((← item) :: taken)
    else pure taken

def list {α : Type} (item : Reader α) : Reader (List α) := do
  let b ← first
  if b = byte '[' then
    skip
    let items ← elements item ((← left) + 1) []
    endList
    pure items.reverse
  else mismatch "a sequence" b

def members {α : Type} (item : Reader α) : Nat → List (String × α) → Reader (List (String × α))
  | 0, _ => throw .endInObject
  | fuel + 1, taken => do
    if ← hasKey taken.isEmpty then
      let k ← key
      colon
      members item fuel ((k, ← item) :: taken)
    else pure taken

/-- An object with any keys, its members in order. -/
def map {α : Type} (item : Reader α) : Reader (List (String × α)) := do
  let b ← first
  if b = byte '\x7b' then
    skip
    let items ← members item ((← left) + 1) []
    endObject
    pure items.reverse
  else mismatch "a map" b

end Concordance.Json.Reader
