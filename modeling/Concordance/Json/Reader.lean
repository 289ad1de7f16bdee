import Concordance.Json.Fault
import Concordance.Text.Utf8

/-!
Reading JSON text from its front, byte by byte.

A `Reader` takes what it reads off the front of the bytes, or stops at the first fault. Where a reader
repeats something, the repetitions are bounded by the bytes left, because each of them takes at least one.
-/
namespace Concordance.Json

/-- Reads a value off the front of the bytes. -/
abbrev Reader := StateT Bytes (Except Fault)

/-- Blanks between the parts of JSON text: space, tab, line feed and carriage return. -/
def isBlank (b : UInt8) : Bool :=
  b == 0x20 || b == 0x09 || b == 0x0A || b == 0x0D

def isDigit (b : UInt8) : Bool :=
  0x30 ≤ b && b ≤ 0x39

def byte (c : Char) : UInt8 :=
  UInt8.ofNat c.toNat

namespace Reader

/-- The next byte, without taking it. -/
def peek? : Reader (Option UInt8) :=
  fun bytes => .ok (bytes.head?, bytes)

def skip : Reader Unit :=
  fun bytes => .ok ((), bytes.tail)

def next? : Reader (Option UInt8) :=
  fun bytes => .ok (bytes.head?, bytes.tail)

/-- Passes blanks and gives the byte after them, without taking it. -/
def look : Reader (Option UInt8) :=
  fun bytes => let rest := bytes.dropWhile isBlank; .ok (rest.head?, rest)

def digits : Reader Bytes :=
  fun bytes => .ok (bytes.takeWhile isDigit, bytes.dropWhile isDigit)

def left : Reader Nat :=
  fun bytes => .ok (bytes.length, bytes)

def name : Bytes → Reader Unit
  | [] => pure ()
  | expected :: rest => do
    match ← next? with
    | none => throw .endInValue
    | some b => if b = expected then name rest else throw .expectedName

def colon : Reader Unit := do
  match ← look with
  | none => throw .endInObject
  | some b => if b = byte ':' then skip else throw .expectedColon

/-- Reads all bytes: after the value only blanks may follow. -/
def whole {α : Type} (reader : Reader α) (bytes : Bytes) : Except Fault α := do
  let (value, rest) ← reader bytes
  if rest.dropWhile isBlank = [] then pure value else throw .trailingCharacters

end Reader

end Concordance.Json
