import Concordance.Json.Value
import Concordance.Json.Decode

/-!
# Running readers on known bytes

A reader is run one step at a time: each primitive has an equation for what comes after it, so a
sequence of steps is followed by rewriting. `Restores` is what all lemmas about values say: the text of
the value is read to its end, and to no further, whatever may follow a value.
-/
namespace Concordance.Proofs.Json.Running

open Concordance.Json Reader

variable {α β : Type}

/-! ## One step -/

/-- A reader goes on with what the one before it has left. -/
theorem bind_of_ok {x : Reader α} {a : α} {bytes rest : Bytes} (h : x bytes = .ok (a, rest))
    (f : α → Reader β) : (x >>= f) bytes = f a rest := by
  simp only [bind, StateT.bind, h, Except.bind]

@[simp] theorem pure_run (a : α) (bytes : Bytes) : (pure a : Reader α) bytes = .ok (a, bytes) := rfl

@[simp] theorem peek?_bind (f : Option UInt8 → Reader β) (bytes : Bytes) :
    (peek? >>= f) bytes = f bytes.head? bytes := rfl

@[simp] theorem skip_bind (f : Unit → Reader β) (bytes : Bytes) : (skip >>= f) bytes = f () bytes.tail :=
  rfl

@[simp] theorem next?_bind (f : Option UInt8 → Reader β) (bytes : Bytes) :
    (next? >>= f) bytes = f bytes.head? bytes.tail := rfl

@[simp] theorem digits_bind (f : Bytes → Reader β) (bytes : Bytes) :
    (digits >>= f) bytes = f (bytes.takeWhile isDigit) (bytes.dropWhile isDigit) := rfl

@[simp] theorem left_bind (f : Nat → Reader β) (bytes : Bytes) : (left >>= f) bytes = f bytes.length bytes :=
  rfl

/-- No blank is passed before a byte that is none. -/
theorem look_bind {b : UInt8} (h : isBlank b = false) (f : Option UInt8 → Reader β) (rest : Bytes) :
    (look >>= f) (b :: rest) = f (some b) (b :: rest) := by
  have hlook : look (b :: rest) = .ok (some b, b :: rest) := by
    rw [look]
    simp [h]
  exact bind_of_ok hlook f

theorem first_cons {b : UInt8} (h : isBlank b = false) (rest : Bytes) :
    first (b :: rest) = .ok (b, b :: rest) := by
  rw [first, look_bind h]
  rfl

/-! ## Characters and bytes -/

theorem utf8Of_append (s t : List Char) : Text.utf8Of (s ++ t) = Text.utf8Of s ++ Text.utf8Of t :=
  List.flatMap_append

theorem utf8Of_cons (c : Char) (t : List Char) :
    Text.utf8Of (c :: t) = String.utf8EncodeChar c ++ Text.utf8Of t := rfl

@[simp] theorem utf8Of_nil : Text.utf8Of [] = [] := rfl

theorem utf8EncodeChar_of_le {c : Char} (h : c.toNat ≤ 127) : String.utf8EncodeChar c = [byte c] := by
  rw [String.utf8EncodeChar]
  exact if_pos h

/-- Characters up to `U+007F` are one byte each. -/
theorem utf8Of_cons_of_le {c : Char} (h : c.toNat ≤ 127) (t : List Char) :
    Text.utf8Of (c :: t) = byte c :: Text.utf8Of t := by
  rw [utf8Of_cons, utf8EncodeChar_of_le h]
  rfl

/-! ## What follows a value -/

/-- What may stand right after a value: nothing, a comma or a closing bracket. -/
def Delimited (rest : Bytes) : Prop :=
  ∀ b ∈ rest.head?, b = byte ',' ∨ b = byte ']' ∨ b = byte '\x7d'

theorem delimited_comma (rest : Bytes) : Delimited (byte ',' :: rest) := by simp [Delimited]

theorem delimited_bracket (rest : Bytes) : Delimited (byte ']' :: rest) := by simp [Delimited]

theorem delimited_brace (rest : Bytes) : Delimited (byte '\x7d' :: rest) := by simp [Delimited]

/-- A reader takes the text of a value, all of it and nothing else. -/
def Restores (reader : Reader α) (value : Value) (a : α) : Prop :=
  ∀ rest : Bytes, Delimited rest → reader (Text.utf8Of value.compact ++ rest) = .ok (a, rest)

end Concordance.Proofs.Json.Running
