import Concordance.Json.Reader

/-!
Text in JSON: writing it between quotes, and reading it back.

Only quotes, backslashes and control characters are escaped when text is written. Every escape is read,
a pair of surrogate escapes as the one character it stands for.
-/
namespace Concordance.Json

def quotedChar (c : Char) : List Char :=
  if c = '"' then ['\\', '"']
  else if c = '\\' then ['\\', '\\']
  else if c = '\x08' then ['\\', 'b']
  else if c = '\x0c' then ['\\', 'f']
  else if c = '\n' then ['\\', 'n']
  else if c = '\r' then ['\\', 'r']
  else if c = '\t' then ['\\', 't']
  else if c.toNat < 0x20 then
    ['\\', 'u', '0', '0', Nat.digitChar (c.toNat / 16), Nat.digitChar (c.toNat % 16)]
  else [c]

def quoted (text : List Char) : List Char :=
  '"' :: (text.flatMap quotedChar ++ ['"'])

def hexValue? (b : UInt8) : Option Nat :=
  if 0x30 ≤ b && b ≤ 0x39 then some (b.toNat - 0x30)
  else if 0x41 ≤ b && b ≤ 0x46 then some (b.toNat - 0x41 + 10)
  else if 0x61 ≤ b && b ≤ 0x66 then some (b.toNat - 0x61 + 10)
  else none

def hexValue4? (a b c d : UInt8) : Option Nat := do
  let a ← hexValue? a
  let b ← hexValue? b
  let c ← hexValue? c
  let d ← hexValue? d
  pure (((a * 16 + b) * 16 + c) * 16 + d)

namespace Reader

def hex4 : Reader Nat :=
  fun bytes => match bytes with
    | a :: b :: c :: d :: rest =>
      match hexValue4? a b c d with
      | some n => .ok (n, rest)
      | none => .error .invalidEscape
    | _ => .error .endInText

/-- Takes a byte that has to be there inside a text. -/
def nextInText : Reader UInt8 := do
  match ← next? with
  | some b => pure b
  | none => throw .endInText

/-- What comes after `\u`: one character, which two surrogate escapes may stand for. -/
def hexEscape : Reader Char := do
  let high ← hex4
  if 0xDC00 ≤ high ∧ high ≤ 0xDFFF then throw .loneSurrogate
  else if 0xD800 ≤ high ∧ high ≤ 0xDBFF then
    if (← nextInText) = byte '\\' then
      if (← nextInText) = byte 'u' then
        let low ← hex4
        if 0xDC00 ≤ low ∧ low ≤ 0xDFFF then
          pure (Char.ofNat (0x10000 + (high - 0xD800) * 0x400 + (low - 0xDC00)))
        else throw .loneSurrogate
      else throw .endOfHexEscape
    else throw .endOfHexEscape
  else pure (Char.ofNat high)

def escape : Reader Char := do
  let b ← nextInText
  if b = byte '"' then pure '"'
  else if b = byte '\\' then pure '\\'
  else if b = byte '/' then pure '/'
  else if b = byte 'b' then pure '\x08'
  else if b = byte 'f' then pure '\x0c'
  else if b = byte 'n' then pure '\n'
  else if b = byte 'r' then pure '\r'
  else if b = byte 't' then pure '\t'
  else if b = byte 'u' then hexEscape
  else throw .invalidEscape

/-- The bytes of a text up to its closing quote, put in front of `taken`, the last one first. -/
def textBytes : Nat → Bytes → Reader Bytes
  | 0, _ => throw .endInText
  | fuel + 1, taken => do
    let b ← nextInText
    if b = byte '"' then pure taken
    else if b = byte '\\' then
      let c ← escape
      textBytes fuel ((String.utf8EncodeChar c).reverse ++ taken)
    else if b < 0x20 then throw .controlCharacter
    else textBytes fuel (b :: taken)

def textRest : Reader String := do
  let bytes ← textBytes ((← left) + 1) []
  match Text.ofUtf8? bytes.reverse with
  | some text => pure text
  | none => throw .invalidCharacter

end Reader

end Concordance.Json
