import Mathlib.Data.List.Infix
import Concordance.Proofs.Snapshot.Framing

/-!
# Damage to a snapshot shows

An accepted snapshot is the frame of its payload, so none of its bytes is free. Bytes cut off or added
at the end contradict the length field. A header that is changed in front of the same payload is
refused at the first field that differs, because each field has one right value. A payload that is
changed under the same header is refused unless it has the same digest.
-/
namespace Concordance.Proofs.Snapshot.Tampering

open Concordance.Snapshot Framing

/-! ## Too few bytes, or too many -/

/-- A snapshot whose payload was replaced by one of another length. -/
theorem unframe_of_length_ne {payload other : Bytes} (h : payload.length < lengthLimit)
    (hne : other.length ≠ payload.length) :
    unframe ((Header.ofPayload payload).bytes ++ other) =
      .error (.truncated (headerLength + payload.length) (headerLength + other.length)) := by
  rw [unframe_append]
  simp [Header.ofPayload, lengthValue_lengthBytes h, hne, Snapshot.version]

theorem length_frame (payload : Bytes) : (frame payload).length = headerLength + payload.length := by
  rw [Header.frame_eq, List.length_append, Header.length_bytes]

theorem unframe_of_extension {payload rest : Bytes} (h : payload.length < lengthLimit)
    (hne : rest ≠ []) :
    unframe (frame payload ++ rest) =
      .error (.truncated (frame payload).length (frame payload ++ rest).length) := by
  have hpos := List.length_pos_iff.mpr hne
  rw [Header.frame_eq, List.append_assoc, unframe_of_length_ne h (by simp; omega)]
  simp only [List.length_append, Header.length_bytes]

/-- A part of a snapshot is missed when the header is incomplete, or else by the length field. -/
theorem unframe_of_part {payload part : Bytes} (h : payload.length < lengthLimit)
    (hp : part <+: frame payload) (hne : part ≠ frame payload) :
    unframe part = .error (.truncated
      (if part.length < headerLength then headerLength else (frame payload).length)
      part.length) := by
  by_cases hs : part.length < headerLength
  · rw [if_pos hs, unframe_of_short hs]
  · have hheader : (Header.ofPayload payload).bytes <+: part := by
      refine List.prefix_of_prefix_length_le (List.prefix_append _ payload) hp ?_
      rw [Header.length_bytes]
      exact Nat.le_of_not_lt hs
    obtain ⟨rest, rfl⟩ := hheader
    rw [Header.frame_eq, List.prefix_append_right_inj] at hp
    have hlen : rest.length ≠ payload.length := fun he =>
      hne (by rw [hp.eq_of_length he, Header.frame_eq])
    rw [if_neg hs, unframe_of_length_ne h hlen, length_frame, List.length_append,
      Header.length_bytes]

/-! ## Another header before the same payload -/

/-- The error that names the first of the four header fields in which a snapshot differs from
another of the same length. -/
def changedField (bytes other : Bytes) : Error :=
  if other.take 4 ≠ bytes.take 4 then .badMagic
  else if other.getD 4 0 ≠ bytes.getD 4 0 then .unsupportedVersion (other.getD 4 0)
  else if (other.drop 5).take 4 ≠ (bytes.drop 5).take 4 then
    .truncated (headerLength + lengthValue ((other.drop 5).take 4)) other.length
  else .checksumMismatch

/-- Versions other than the one that is written are not read. -/
theorem version_refused_iff (version : UInt8) :
    version = 0 ∨ Snapshot.version < version ↔ version ≠ Snapshot.version := by
  have h0 : version = 0 ↔ version.toNat = 0 := ⟨fun h => h ▸ rfl, fun h => UInt8.toNat_inj.mp h⟩
  have h1 : version = 1 ↔ version.toNat = 1 := ⟨fun h => h ▸ rfl, fun h => UInt8.toNat_inj.mp h⟩
  rw [Snapshot.version, ne_eq, h0, h1, UInt8.lt_iff_toNat_lt]
  simp only [UInt8.reduceToNat]
  omega

theorem lengthValue_eq_iff {bytes : Bytes} (hb : bytes.length = 4) {n : Nat} (h : n < lengthLimit) :
    n = lengthValue bytes ↔ bytes = lengthBytes n :=
  ⟨fun he => by rw [he, lengthBytes_lengthValue hb],
    fun he => by rw [he, lengthValue_lengthBytes h]⟩

/-- Every field has one right value, so the first that differs is refused. -/
theorem unframe_of_header_ne {payload : Bytes} (h : payload.length < lengthLimit) {header : Header}
    (hne : header.bytes ++ payload ≠ frame payload) :
    unframe (header.bytes ++ payload) =
      .error (changedField (frame payload) (header.bytes ++ payload)) := by
  rw [unframe_append, changedField, Header.frame_eq, List.length_append, Header.length_bytes]
  simp only [Header.take_mark, Header.getD_version, Header.take_length, version_refused_iff, ne_eq,
    lengthValue_eq_iff header.length_length h, Header.ofPayload]
  split_ifs with hmark hversion hlength hdigest
  · -- no field differs, so the headers are the same
    refine hne ?_
    rw [Header.frame_eq, Header.bytes, hmark, hversion, hlength, ← hdigest]
    rfl
  all_goals rfl

/-! ## Another payload under the same header -/

theorem unframe_of_payload_ne {payload other : Bytes} (h : payload.length < lengthLimit)
    (hl : other.length = payload.length) (hd : Digest.sha256 other ≠ Digest.sha256 payload) :
    unframe ((Header.ofPayload payload).bytes ++ other) = .error .checksumMismatch := by
  rw [unframe_append]
  simp [Header.ofPayload, lengthValue_lengthBytes h, hl, hd, Snapshot.version]

/-! ## Accepted snapshots -/

/-- An accepted snapshot is the frame of a payload that holds a sound index, and it stands for that
index. What it turns into when bytes are cut off or added is refused as truncated; a change to the
header alone is refused at the first field that differs; a change to the payload alone is refused by
its digest, unless both payloads have the same one. -/
theorem decode_tamper_evident {bytes : Bytes} {index : Index} (h : decode bytes = .ok index) :
    (∃ payload : Bytes, payload.length < lengthLimit ∧
      bytes = [0x42, 0x53, 0x49, 0x58] ++ [1] ++ lengthBytes payload.length ++
        Digest.sha256 payload ++ payload ∧
      Index.ofJson payload = .ok index ∧ index.check = .ok ()) ∧
    (∀ part : Bytes, part <+: bytes → part ≠ bytes →
      decode part = .error (.truncated
        (if part.length < headerLength then headerLength else bytes.length) part.length)) ∧
    (∀ rest : Bytes, rest ≠ [] →
      decode (bytes ++ rest) = .error (.truncated bytes.length (bytes ++ rest).length)) ∧
    (∀ other : Bytes, other.length = bytes.length →
      other.drop headerLength = bytes.drop headerLength → other ≠ bytes →
      decode other = .error (changedField bytes other)) ∧
    (∀ other : Bytes, other.length = bytes.length →
      other.take headerLength = bytes.take headerLength →
      Digest.sha256 (other.drop headerLength) ≠ Digest.sha256 (bytes.drop headerLength) →
      decode other = .error .checksumMismatch) := by
  obtain ⟨payload, rfl, hlt, hj, hc⟩ := (decode_eq_ok_iff bytes index).mp h
  refine ⟨⟨payload, hlt, rfl, hj, hc⟩, fun part hp hne => ?_, fun rest hne => ?_,
    fun other hl hd hne => ?_, fun other hl ht hne => ?_⟩
  · exact decode_of_unframe_error (unframe_of_part hlt hp hne)
  · exact decode_of_unframe_error (unframe_of_extension hlt hne)
  · have hle : headerLength ≤ other.length := by rw [hl, length_frame]; omega
    obtain ⟨header, rest, rfl⟩ := Header.exists_of_le hle
    obtain rfl : rest = payload := by rwa [Header.drop_header, Header.frame_eq, Header.drop_header] at hd
    exact decode_of_unframe_error (unframe_of_header_ne hlt hne)
  · have hle : headerLength ≤ other.length := by rw [hl, length_frame]; omega
    obtain ⟨header, rest, rfl⟩ := Header.exists_of_le hle
    simp only [Header.frame_eq, Header.take_header, Header.drop_header] at ht hne
    rw [length_frame, List.length_append, Header.length_bytes] at hl
    rw [ht]
    exact decode_of_unframe_error (unframe_of_payload_ne hlt (by omega) hne)

/-- An empty index, written as the list of its two fields, an empty object and an empty list. -/
def listedIndex : Bytes := [0x5B, 0x7B, 0x7D, 0x2C, 0x5B, 0x5D, 0x5D]

/-- A snapshot of forty-eight bytes that loses its last byte, gets another, has its version raised, or
has its last byte replaced. -/
theorem decode_damaged_listedIndex :
    decode (frame listedIndex) = .ok Index.empty ∧
    decode ((frame listedIndex).take 47) = .error (.truncated 48 47) ∧
    decode (frame listedIndex ++ [0]) = .error (.truncated 48 49) ∧
    decode ((frame listedIndex).set 4 2) = .error (.unsupportedVersion 2) ∧
    decode ((frame listedIndex).set 47 0x20) = .error .checksumMismatch := by
  have h : decode (frame listedIndex) = .ok Index.empty :=
    (decode_eq_ok_iff _ _).mpr ⟨listedIndex, rfl, by decide, rfl, rfl⟩
  obtain ⟨-, hpart, hrest, hheader, hpayload⟩ := decode_tamper_evident h
  refine ⟨h, ?_, ?_, ?_, ?_⟩
  · exact hpart _ ⟨_, List.take_append_drop 47 _⟩ (by decide +kernel)
  · exact hrest [0] (by decide)
  · exact hheader _ (by decide) (by decide +kernel) (by decide +kernel)
  · exact hpayload _ (by decide) (by decide +kernel) (by decide +kernel)

end Concordance.Proofs.Snapshot.Tampering
