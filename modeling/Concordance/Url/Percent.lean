import Concordance.Text.Hexadecimal
import Concordance.Text.Utf8

/-!
Percent encoding: characters that a part of an address cannot hold are written as the bytes of their
UTF-8 form, each as a percent sign and two digits.
-/
namespace Concordance.Url.Percent

def upperDigit (n : Nat) : Char := (Nat.digitChar n).toUpper

def encodeByte (b : UInt8) : List Char :=
  ['%', upperDigit (b.toNat / 16), upperDigit (b.toNat % 16)]

/-- Characters that are encoded everywhere: controls, and all that are not ASCII. -/
def isControl (c : Char) : Bool := c.toNat < 0x20 || 0x7F ≤ c.toNat

def inFragment (c : Char) : Bool := isControl c || [' ', '"', '<', '>', '\x60'].contains c

def inPath (c : Char) : Bool := inFragment c || ['#', '?', '\x7b', '\x7d'].contains c

def inUserinfo (c : Char) : Bool :=
  inPath c || ['/', ':', ';', '=', '@', '[', '\\', ']', '^', '|'].contains c

def inQuery (c : Char) : Bool := isControl c || [' ', '"', '#', '<', '>'].contains c

def inSpecialQuery (c : Char) : Bool := inQuery c || c = '\''

/-- A text with the characters that `p` holds of encoded. -/
def encode (p : Char → Bool) (text : List Char) : String :=
  String.ofList (text.flatMap fun c => if p c then (Text.utf8Of [c]).flatMap encodeByte else [c])

/-- The bytes that are left when what is encoded is read back. -/
def decode : List Char → Bytes
  | '%' :: a :: b :: rest =>
    match Text.hexDigit? a, Text.hexDigit? b with
    | some x, some y => UInt8.ofNat (16 * x + y) :: decode rest
    | _, _ => Text.utf8Of ['%'] ++ decode (a :: b :: rest)
  | c :: rest => Text.utf8Of [c] ++ decode rest
  | [] => []

end Concordance.Url.Percent
