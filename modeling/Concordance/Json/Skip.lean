import Concordance.Json.Reader

/-!
Passing over a value of any kind without keeping it.

Values may nest to any depth: the brackets that are open are kept in a list. What is passed over is held
to the form of JSON only, so a number may be out of range, and surrogates may stand alone.
-/
namespace Concordance.Json

inductive Bracket where
  | list
  | object
  deriving DecidableEq, Repr

namespace Bracket

def closing : Bracket → UInt8
  | list => byte ']'
  | object => byte '\x7d'

/-- The fault of a text that ends inside the bracket. -/
def ended : Bracket → Fault
  | list => .endInList
  | object => .endInObject

/-- The fault of a value that neither a comma nor the closing bracket follows. -/
def unseparated : Bracket → Fault
  | list => .expectedCommaOrBracket
  | object => .expectedCommaOrBrace

end Bracket

namespace Reader

/-- Passes a text after its opening quote. -/
def skipText : Nat → Reader Unit
  | 0 => throw .endInText
  | fuel + 1 => do
    match ← next? with
    | none => throw .endInText
    | some b =>
      if b = byte '"' then pure ()
      else if b = byte '\\' then
        match ← next? with
        | none => throw .endInText
        | some e =>
          if e = byte 'u' then
            fun bytes => match bytes with
              | a :: b :: c :: d :: rest =>
                if [a, b, c, d].all (fun x => isDigit x || (0x41 ≤ x && x ≤ 0x46) ||
                    (0x61 ≤ x && x ≤ 0x66)) then
                  skipText fuel rest
                else .error .invalidEscape
              | _ => .error .endInText
          else if "\"\\/bfnrt".toList.any (fun c => byte c = e) then skipText fuel
          else throw .invalidEscape
      else if b < 0x20 then throw .controlCharacter
      else skipText fuel

def skipExponent : Reader Unit := do
  let sign ← peek?
  if sign = some (byte '+') ∨ sign = some (byte '-') then skip
  if (← digits) = [] then throw .invalidNumber

def skipNumber : Reader Unit := do
  let front ← digits
  match front with
  | [] => throw .invalidNumber
  | first :: more => if first = byte '0' ∧ more ≠ [] then throw .invalidNumber
  let point := (← peek?) = some (byte '.')
  if point then
    skip
    if (← digits) = [] then throw .invalidNumber
  let e ← peek?
  if e = some (byte 'e') ∨ e = some (byte 'E') then
    skip
    skipExponent

/-- Passes what stands before an element: for an object, its key and the colon. -/
def skipKey (bracket : Bracket) : Reader Unit := do
  match bracket with
  | .list => pure ()
  | .object =>
    match ← look with
    | none => throw .endInObject
    | some b =>
      if b = byte '"' then
        skip
        skipText ((← left) + 1)
        colon
      else throw .keyNotText

/-- Where a walk over a value stands: before a value, or inside a bracket, after an element (`filled`) or at
its start. -/
inductive Place where
  | value
  | inside (filled : Bool)

/-- Walks to the end of the outermost value, given the brackets that are open, the innermost first. -/
def walk : Nat → Place → List Bracket → Reader Unit
  | 0, _, _ => throw .endInValue
  | fuel + 1, .value, opened => do
    let ended : Reader Unit := match opened with
      | [] => pure ()
      | _ => walk fuel (.inside true) opened
    match ← look with
    | none => throw .endInValue
    | some b =>
      if b = byte 'n' then do skip; name ("ull".toList.map byte); ended
      else if b = byte 't' then do skip; name ("rue".toList.map byte); ended
      else if b = byte 'f' then do skip; name ("alse".toList.map byte); ended
      else if b = byte '-' then do skip; skipNumber; ended
      else if isDigit b then do skipNumber; ended
      else if b = byte '"' then do skip; skipText ((← left) + 1); ended
      else if b = byte '[' then do skip; walk fuel (.inside false) (.list :: opened)
      else if b = byte '\x7b' then do skip; walk fuel (.inside false) (.object :: opened)
      else throw .expectedValue
  | _ + 1, .inside _, [] => pure ()
  | fuel + 1, .inside filled, bracket :: opened => do
    match ← look with
    | none => throw bracket.ended
    | some b =>
      if filled ∧ b = byte ',' then
        skip
        skipKey bracket
        walk fuel .value (bracket :: opened)
      else if b = bracket.closing then
        skip
        match opened with
        | [] => pure ()
        | _ => walk fuel (.inside true) opened
      else if filled then throw bracket.unseparated
      else
        skipKey bracket
        walk fuel .value (bracket :: opened)

def skipValue : Reader Unit := do
  walk (2 * (← left) + 2) .value []

end Reader

end Concordance.Json
