import Concordance.Snapshot.Codec

/-!
# What stands before the payload

Forty-one bytes or more are a header, whose four fields have fixed lengths, and a payload. `unframe`
reads these fields and nothing else, so what it answers can be said of them alone; it accepts exactly
what `frame` makes of a payload whose length fits its field.
-/
namespace Concordance.Proofs.Snapshot.Framing

open Concordance.Snapshot

/-! ## The length field -/

theorem length_lengthBytes (n : Nat) : (lengthBytes n).length = 4 := rfl

theorem lengthValue_lengthBytes {n : Nat} (h : n < lengthLimit) :
    lengthValue (lengthBytes n) = n := by
  simp only [lengthLimit] at h
  simp only [lengthValue, lengthBytes, List.foldr_cons, List.foldr_nil, UInt8.toNat_ofNat']
  omega

/-- Four bytes are those of the number they stand for, so no two fields stand for one number. -/
theorem lengthBytes_lengthValue {bytes : Bytes} (h : bytes.length = 4) :
    lengthBytes (lengthValue bytes) = bytes := by
  match bytes, h with
  | [a, b, c, d], _ =>
    have ha := a.toNat_lt
    have hb := b.toNat_lt
    have hc := c.toNat_lt
    have hd := d.toNat_lt
    simp only [lengthBytes, lengthValue, List.foldr_cons, List.foldr_nil, List.cons.injEq, and_true,
      ← UInt8.toNat_inj, UInt8.toNat_ofNat']
    omega

theorem lengthValue_lt {bytes : Bytes} (h : bytes.length = 4) : lengthValue bytes < lengthLimit := by
  match bytes, h with
  | [a, b, c, d], _ =>
    have ha := a.toNat_lt
    have hb := b.toNat_lt
    have hc := c.toNat_lt
    have hd := d.toNat_lt
    simp only [lengthValue, lengthLimit, List.foldr_cons, List.foldr_nil]
    omega

/-! ## Headers -/

structure Header where
  mark : Bytes
  version : UInt8
  length : Bytes
  digest : Bytes
  length_mark : mark.length = 4
  length_length : length.length = 4
  length_digest : digest.length = 32

namespace Header

def bytes (header : Header) : Bytes :=
  header.mark ++ [header.version] ++ header.length ++ header.digest

def ofPayload (payload : Bytes) : Header where
  mark := magic
  version := Snapshot.version
  length := lengthBytes payload.length
  digest := Digest.sha256 payload
  length_mark := rfl
  length_length := length_lengthBytes _
  length_digest := Digest.length_sha256 payload

@[simp] theorem length_bytes (header : Header) : header.bytes.length = headerLength := by
  simp [bytes, header.length_mark, header.length_length, header.length_digest, headerLength]

theorem frame_eq (payload : Bytes) : frame payload = (ofPayload payload).bytes ++ payload := rfl

/-! The fields of a header are found at fixed places in whatever it stands before. -/

theorem bytes_append (header : Header) (rest : Bytes) : header.bytes ++ rest =
    header.mark ++ (header.version :: (header.length ++ (header.digest ++ rest))) := by
  simp only [bytes, List.append_assoc, List.cons_append, List.nil_append]

@[simp] theorem take_mark (header : Header) (rest : Bytes) :
    (header.bytes ++ rest).take 4 = header.mark := by
  rw [bytes_append, List.take_left' header.length_mark]

@[simp] theorem getD_version (header : Header) (rest : Bytes) :
    (header.bytes ++ rest).getD 4 0 = header.version := by
  rw [bytes_append, List.getD_eq_getElem?_getD, List.getElem?_append_right (Nat.le_of_eq header.length_mark),
    header.length_mark]
  rfl

theorem drop_version (header : Header) (rest : Bytes) :
    (header.bytes ++ rest).drop 5 = header.length ++ (header.digest ++ rest) := by
  rw [bytes_append, show 5 = 4 + 1 from rfl, ← List.drop_drop, List.drop_left' header.length_mark,
    List.drop_one, List.tail_cons]

@[simp] theorem take_length (header : Header) (rest : Bytes) :
    ((header.bytes ++ rest).drop 5).take 4 = header.length := by
  rw [drop_version, List.take_left' header.length_length]

@[simp] theorem take_digest (header : Header) (rest : Bytes) :
    ((header.bytes ++ rest).drop 9).take 32 = header.digest := by
  rw [show 9 = 5 + 4 from rfl, ← List.drop_drop, drop_version,
    List.drop_left' header.length_length, List.take_left' header.length_digest]

@[simp] theorem drop_header (header : Header) (rest : Bytes) :
    (header.bytes ++ rest).drop headerLength = rest :=
  List.drop_left' header.length_bytes

@[simp] theorem take_header (header : Header) (rest : Bytes) :
    (header.bytes ++ rest).take headerLength = header.bytes :=
  List.take_left' header.length_bytes

/-- Bytes that are no shorter than a header start with one. -/
theorem exists_of_le {bytes : Bytes} (h : headerLength ≤ bytes.length) :
    ∃ (header : Header) (payload : Bytes), bytes = header.bytes ++ payload := by
  have h41 : 41 ≤ bytes.length := h
  have h4 : 4 < bytes.length := by omega
  refine ⟨⟨bytes.take 4, bytes[4], (bytes.drop 5).take 4, (bytes.drop 9).take 32,
    by simp; omega, by simp; omega, by simp; omega⟩, bytes.drop 41, ?_⟩
  have h9 : (bytes.drop 9).take 32 ++ bytes.drop 41 = bytes.drop 9 := by
    rw [show bytes.drop 41 = (bytes.drop 9).drop 32 by rw [List.drop_drop], List.take_append_drop]
  have h5 : (bytes.drop 5).take 4 ++ bytes.drop 9 = bytes.drop 5 := by
    rw [show bytes.drop 9 = (bytes.drop 5).drop 4 by rw [List.drop_drop], List.take_append_drop]
  simp only [bytes_append]
  rw [h9, h5, ← List.drop_eq_getElem_cons h4, List.take_append_drop]

end Header

/-! ## Reading a header -/

theorem unframe_of_short {bytes : Bytes} (h : bytes.length < headerLength) :
    unframe bytes = .error (.truncated headerLength bytes.length) := by
  rw [unframe, if_pos h]

/-- The four fields are checked in their order, the last two against the payload. -/
theorem unframe_append (header : Header) (payload : Bytes) :
    unframe (header.bytes ++ payload) =
      if header.mark ≠ magic then .error .badMagic
      else if header.version = 0 ∨ Snapshot.version < header.version then
        .error (.unsupportedVersion header.version)
      else if payload.length ≠ lengthValue header.length then
        .error (.truncated (headerLength + lengthValue header.length)
          (headerLength + payload.length))
      else if Digest.sha256 payload ≠ header.digest then .error .checksumMismatch
      else .ok payload := by
  have hlength : (header.bytes ++ payload).length = headerLength + payload.length := by
    rw [List.length_append, Header.length_bytes]
  have hlong : ¬ (header.bytes ++ payload).length < headerLength := by
    rw [hlength]
    omega
  rw [unframe, if_neg hlong, hlength]
  simp only [Header.take_mark, Header.getD_version, Header.take_length, Header.take_digest,
    Header.drop_header]

/-- What is accepted is exactly what a payload is framed as, if its length fits. -/
theorem unframe_eq_ok_iff (bytes payload : Bytes) :
    unframe bytes = .ok payload ↔ bytes = frame payload ∧ payload.length < lengthLimit := by
  constructor
  · intro h
    by_cases hshort : bytes.length < headerLength
    · rw [unframe_of_short hshort] at h
      cases h
    obtain ⟨header, rest, rfl⟩ := Header.exists_of_le (Nat.le_of_not_lt hshort)
    rw [unframe_append] at h
    split at h
    · cases h
    split at h
    · cases h
    split at h
    · cases h
    split at h
    · cases h
    rename_i hmark hversion hlength hdigest
    obtain rfl : rest = payload := Except.ok.inj h
    obtain ⟨mark, version, length, digest, hm, hl, hd⟩ := header
    simp only [Classical.not_not] at hmark hversion hlength hdigest
    subst hmark hdigest
    have hone : version = Snapshot.version := by
      simp only [Snapshot.version, not_or, UInt8.not_lt] at hversion ⊢
      have h0 : version.toNat ≠ 0 := fun h0 => hversion.1 (UInt8.toNat_inj.mp h0)
      have h1 : version.toNat ≤ 1 := hversion.2
      exact UInt8.toNat_inj.mp (by simp; omega)
    refine ⟨?_, hlength ▸ lengthValue_lt hl⟩
    rw [Header.frame_eq, Header.ofPayload, Header.bytes, Header.bytes]
    simp only [hone, hlength, lengthBytes_lengthValue hl]
  · rintro ⟨rfl, hlt⟩
    rw [Header.frame_eq, unframe_append]
    simp [Header.ofPayload, lengthValue_lengthBytes hlt, Snapshot.version]

/-! ## Decoding -/

theorem decode_of_unframe_error {bytes : Bytes} {e : Error} (h : unframe bytes = .error e) :
    decode bytes = .error e := by
  rw [decode, h]
  rfl

/-- Once the header is accepted, the payload and the index in it decide. -/
theorem decode_frame {payload : Bytes} (h : payload.length < lengthLimit) :
    decode (frame payload) = match Index.ofJson payload with
      | .error fault => .error (.payload fault)
      | .ok index => match index.check with
        | .error fault => .error (.unsound fault)
        | .ok () => .ok index := by
  rw [decode, (unframe_eq_ok_iff _ _).mpr ⟨rfl, h⟩]
  change ((Index.ofJson payload).mapError Error.payload >>= fun index =>
    (index.check).mapError Error.unsound >>= fun _ => pure index) = _
  cases Index.ofJson payload with
  | error fault => rfl
  | ok index =>
    change ((index.check).mapError Error.unsound >>= fun _ => pure index) = match index.check with
      | .error fault => .error (.unsound fault)
      | .ok () => .ok index
    cases index.check with
    | error fault => rfl
    | ok u => rfl

theorem decode_eq_ok_iff (bytes : Bytes) (index : Index) :
    decode bytes = .ok index ↔ ∃ payload : Bytes, bytes = frame payload ∧
      payload.length < lengthLimit ∧ Index.ofJson payload = .ok index ∧ index.check = .ok () := by
  constructor
  · intro h
    cases hu : unframe bytes with
    | error e => rw [decode_of_unframe_error hu] at h; cases h
    | ok payload =>
      obtain ⟨rfl, hlt⟩ := (unframe_eq_ok_iff _ _).mp hu
      rw [decode_frame hlt] at h
      refine ⟨payload, rfl, hlt, ?_⟩
      split at h
      · cases h
      · split at h
        · cases h
        · cases h
          exact ⟨‹_›, ‹_›⟩
  · rintro ⟨payload, rfl, hlt, hj, hc⟩
    rw [decode_frame hlt, hj]
    simp only [hc]

end Concordance.Proofs.Snapshot.Framing
