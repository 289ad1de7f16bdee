import Concordance.Json.Decode

/-!
Reading records: objects with known fields, or lists that hold the fields in their order.

Members of an object with other keys are passed over. A field may come once; one that is missing at the
end is a fault unless the record can do without it.
-/
namespace Concordance.Json

/-- One field of a record that is being read into a `σ`. It is found under any of its keys. -/
structure Field (σ : Type) where
  name : String
  keys : List String := [name]
  taken : σ → Bool
  read : σ → Reader σ

/-- How records of a type are read. Messages name the type by its title. The first `needed` fields must be in
a list; the others may be missing at its end. -/
structure Record (σ α : Type) where
  title : String
  fields : List (Field σ)
  needed : Nat
  start : σ
  finish : σ → Except Fault α

namespace Record

variable {σ α : Type}

def tooShort (record : Record σ α) (length : Nat) : Fault :=
  .invalidLength length (record.title ++ s!" with {record.fields.length} elements")

/-- The fields of a list, from the one at a position on. -/
def positional (record : Record σ α) : Nat → List (Field σ) → σ → Reader σ
  | _, [], s => pure s
  | position, field :: rest, s => do
    if ← Reader.hasElement (position = 0) then positional record (position + 1) rest (← field.read s)
    else if record.needed ≤ position then pure s
    else throw (record.tooShort position)

def keyed (record : Record σ α) : Nat → Bool → σ → Reader σ
  | 0, _, _ => throw .endInObject
  | fuel + 1, isFirst, s => do
    if ← Reader.hasKey isFirst then
      let k ← Reader.key
      match record.fields.find? (fun field => field.keys.contains k) with
      | some field =>
        if field.taken s then throw (.duplicateField field.name)
        else
          Reader.colon
          keyed record fuel false (← field.read s)
      | none =>
        Reader.colon
        Reader.skipValue
        keyed record fuel false s
    else pure s

def reader (record : Record σ α) : Reader α := do
  let b ← Reader.first
  if b = byte '[' then
    Reader.skip
    let value ← record.finish (← record.positional 0 record.fields record.start)
    Reader.endList
    pure value
  else if b = byte '\x7b' then
    Reader.skip
    let value ← record.finish (← record.keyed ((← Reader.left) + 1) true record.start)
    Reader.endObject
    pure value
  else Reader.mismatch record.title b

end Record

/-- The value of a field that has to be there. -/
def required {α : Type} (name : String) : Option α → Except Fault α
  | some value => .ok value
  | none => .error (.missingField name)

end Concordance.Json
