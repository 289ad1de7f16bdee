import Concordance.Index.Soundness
import Concordance.Snapshot.Digest
import Concordance.Snapshot.Payload

/-!
Snapshots: an index as bytes.

A snapshot starts with the magic bytes `BSIX`, the version, the length of the payload in four bytes (the
lowest first) and the digest of the payload; the payload is the index as JSON. Reading checks these fields
in their order, then the payload, and then the structure of the index.
-/
namespace Concordance.Snapshot

inductive Error where
  | badMagic
  | unsupportedVersion (actual : UInt8)
  | truncated (expected actual : Nat)
  | checksumMismatch
  | payload (fault : Json.Fault)
  | unsound (fault : Index.Fault)
  | tooLarge (length : Nat)

/-- The version that is written, and the latest one that is read. -/
def version : UInt8 := 1

def Error.message : Error → String
  | badMagic => "Not an index snapshot (bad magic bytes)"
  | unsupportedVersion actual => s!"Unsupported snapshot version {actual}, expected <= {version}"
  | truncated expected actual => s!"Snapshot truncated: expected {expected} bytes, found {actual}"
  | checksumMismatch => "Snapshot checksum mismatch, the payload is corrupt"
  | payload fault => "Serialization/Deserialization error: " ++ fault.message
  | unsound fault => "Invalid index: " ++ fault.message
  | tooLarge length => s!"Invalid index: payload of {length} bytes is too large"

def magic : Bytes := [0x42, 0x53, 0x49, 0x58]

/-- The length of everything before the payload. -/
def headerLength : Nat := 41

/-- The length of a payload is below this: 2 to the 32nd, so that four bytes hold it. -/
def lengthLimit : Nat := 0x100000000

/-- The four bytes of a number below the limit, the lowest first. -/
def lengthBytes (n : Nat) : Bytes :=
  [UInt8.ofNat n, UInt8.ofNat (n / 256), UInt8.ofNat (n / 65536), UInt8.ofNat (n / 16777216)]

def lengthValue (bytes : Bytes) : Nat :=
  bytes.foldr (fun b n => b.toNat + 256 * n) 0

def payloadOf (index : Index) : Bytes :=
  Text.utf8Of index.toJson.compact

def frame (payload : Bytes) : Bytes :=
  magic ++ [version] ++ lengthBytes payload.length ++ Digest.sha256 payload ++ payload

/-- The snapshot of an index. A payload whose length does not fit its field has none. -/
def encode (index : Index) : Except Error Bytes :=
  let payload := payloadOf index
  if payload.length < lengthLimit then .ok (frame payload) else .error (.tooLarge payload.length)

/-- The payload of a snapshot, after all fields before it have been checked. -/
def unframe (bytes : Bytes) : Except Error Bytes :=
  if bytes.length < headerLength then .error (.truncated headerLength bytes.length)
  else if bytes.take 4 ≠ magic then .error .badMagic
  else
    let actual := bytes.getD 4 0
    if actual = 0 ∨ version < actual then .error (.unsupportedVersion actual)
    else
      let length := lengthValue ((bytes.drop 5).take 4)
      let digest := (bytes.drop 9).take 32
      let payload := bytes.drop headerLength
      if payload.length ≠ length then .error (.truncated (headerLength + length) bytes.length)
      else if Digest.sha256 payload ≠ digest then .error .checksumMismatch
      else .ok payload

def decode (bytes : Bytes) : Except Error Index := do
  let payload ← unframe bytes
  let index ← (Index.ofJson payload).mapError .payload
  (index.check).mapError .unsound
  pure index

end Concordance.Snapshot
