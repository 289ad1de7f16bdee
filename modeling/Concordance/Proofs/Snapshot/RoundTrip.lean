import Concordance.Proofs.Index.Checking
import Concordance.Proofs.Index.Norms
import Concordance.Proofs.Json.Lengths
import Concordance.Proofs.Snapshot.Framing
import Concordance.Proofs.Snapshot.Payloads

/-!
# Snapshots restore their indexes

An index whose payload fits is written, and what is read back is the index itself if it is sound, and
the fault of its structure otherwise. Nothing has to be asked of an index that was built: its ids and
its norms are bounded by the length of the payload that holds them.
-/
namespace Concordance.Proofs.Snapshot.RoundTrip

open Concordance.Snapshot Concordance.Proofs.Index
open Framing Payloads Building Checking Norms Json.Lengths

/-! ## Indexes that fit into a payload -/

structure Writable (index : Index) : Prop where
  documents : ∀ d ∈ index.documents, Storable d
  postings : ∀ (term : String) (ids : Postings), index.postings[term]? = some ids →
    ∀ id ∈ ids, id < 2 ^ 64

/-- The payload of an index whose terms are written in some order; `payloadOf` writes them ascending. -/
def payloadIn (order : List (String × Postings)) (index : Index) : Bytes :=
  Text.utf8Of (indexJson order index.documents.toList).compact

theorem ofJson_payloadIn {index : Index} (h : Writable index) {order : List (String × Postings)}
    (horder : order.Perm index.postings.toList) : Index.ofJson (payloadIn order index) = .ok index := by
  refine ofJson_indexJson horder (fun e he id hid => ?_) h.documents
  exact h.postings e.1 e.2 (Std.ExtTreeMap.mem_toList_iff_getElem?_eq_some.mp (horder.mem_iff.mp he)) id hid

/-- The check of the index decides what is read back: the index, or what is wrong with its structure. -/
theorem decode_frame_payloadIn {index : Index} (h : Writable index) {order : List (String × Postings)}
    (horder : order.Perm index.postings.toList) (hlt : (payloadIn order index).length < lengthLimit) :
    (index.check = .ok () → decode (frame (payloadIn order index)) = .ok index) ∧
      (∀ fault : Index.Fault, index.check = .error fault →
        decode (frame (payloadIn order index)) = .error (.unsound fault)) := by
  have hread := ofJson_payloadIn h horder
  constructor
  · intro hcheck
    simp only [decode_frame hlt, hread, hcheck]
  · intro fault hcheck
    simp only [decode_frame hlt, hread, hcheck]

/-! ## Built indexes -/

/-- The payload holds the list of documents. -/
theorem infix_documents (index : Index) :
    (Json.Value.list (index.documents.toList.map Document.toJson)).compact <:+: index.toJson.compact :=
  infix_object ("documents", .list (index.documents.toList.map Document.toJson))
    (List.mem_cons_of_mem _ List.mem_cons_self)

theorem size_le_length (index : Index) : index.size ≤ (payloadOf index).length := by
  have hitems := length_items_le (index.documents.toList.map Document.toJson)
  rw [List.length_map, Array.length_toList] at hitems
  exact hitems.trans ((infix_documents index).flatMap String.utf8EncodeChar).length_le

theorem length_text_le {index : Index} {d : Document} (hd : d ∈ index.documents) :
    d.text.toList.length ≤ (payloadOf index).length := by
  have htext : (Json.Value.text d.text).compact <:+: d.toJson.compact :=
    infix_object ("text", .text d.text) (by simp)
  have hdocument := infix_list (List.mem_map_of_mem (f := Document.toJson) (Array.mem_toList_iff.mpr hd))
  calc d.text.toList.length ≤ (Json.Value.text d.text).compact.length := length_le_text d.text
    _ ≤ index.toJson.compact.length := ((htext.trans hdocument).trans (infix_documents index)).length_le
    _ ≤ (payloadOf index).length := length_le_utf8Of _

theorem length_le_intercalate (words : List String) :
    words.length ≤ (String.intercalate " " words).toList.length + 1 := by
  rw [String.toList_intercalate]
  induction words with
  | nil => exact Nat.zero_le _
  | cons word words ih =>
    cases words with
    | nil => exact Nat.le_add_left _ _
    | cons word' words =>
      rw [List.map_cons, List.map_cons, List.intercalate_cons_cons, List.length_cons]
      rw [List.map_cons] at ih
      simp only [List.length_append]
      have hspace : " ".toList.length = 1 := rfl
      omega

theorem mem_documents_ofEntries {entries : List Entry} {d : Document}
    (hd : d ∈ (Index.ofEntries entries).documents) : ∃ (i : ℕ) (entry : Entry), i < entries.length ∧
      d = Document.ofTokens i entry.title entry.url entry.tokens := by
  rw [← Array.mem_toList_iff, documents_ofEntries, documentsOf, List.mem_mapIdx] at hd
  obtain ⟨i, hi, rfl⟩ := hd
  exact ⟨i, entries[i], hi, rfl⟩

theorem writable_ofEntries {entries : List Entry}
    (h : (payloadOf (Index.ofEntries entries)).length < lengthLimit) : Writable (Index.ofEntries entries) := by
  have hlimit : lengthLimit = 2 ^ 32 := rfl
  have hsize := size_le_length (Index.ofEntries entries)
  refine ⟨fun d hd => ?_, fun term ids hterm id hid => ?_⟩
  · obtain ⟨i, entry, hi, rfl⟩ := mem_documents_ofEntries hd
    have htext := length_text_le hd
    have htokens := length_le_intercalate entry.tokens
    rw [size_ofEntries] at hsize
    refine ⟨?_, isFinite_normOf ?_⟩
    · change i < _
      omega
    · change (String.intercalate " " entry.tokens).toList.length ≤ _ at htext
      omega
  · have hrange : id < (Index.ofEntries entries).size :=
      (sound_ofEntries entries).inRange term ids hterm id hid
    exact Nat.lt_trans (Nat.lt_of_lt_of_le hrange (hsize.trans h.le)) (by decide)

/-! ## Round trips -/

theorem encode_of_lt {index : Index} (h : (payloadOf index).length < lengthLimit) :
    encode index = .ok (frame (payloadOf index)) := by
  rw [encode]
  exact if_pos h

/-- An index whose payload is shorter than four gigabytes is written, and what is written is read back
as the same index, or as the fault of its structure if it has one, in whatever order its terms were
written. No snapshot is made of a longer payload. An index that was built always comes back. -/
theorem decode_encode :
    (∀ index : Index, Writable index → (payloadOf index).length < 2 ^ 32 →
      ∃ bytes : Bytes, encode index = .ok bytes ∧
        (index.check = .ok () → decode bytes = .ok index) ∧
        (∀ fault : Index.Fault, index.check = .error fault → decode bytes = .error (.unsound fault))) ∧
    (∀ index : Index, Writable index → ∀ order : List (String × Postings),
      order.Perm index.postings.toList → (payloadIn order index).length < 2 ^ 32 →
        (index.check = .ok () → decode (frame (payloadIn order index)) = .ok index) ∧
        (∀ fault : Index.Fault, index.check = .error fault →
          decode (frame (payloadIn order index)) = .error (.unsound fault))) ∧
    (∀ index : Index, 2 ^ 32 ≤ (payloadOf index).length →
      encode index = .error (.tooLarge (payloadOf index).length)) ∧
    (∀ entries : List Entry, (payloadOf (Index.ofEntries entries)).length < 2 ^ 32 →
      ∃ bytes : Bytes, encode (Index.ofEntries entries) = .ok bytes ∧
        decode bytes = .ok (Index.ofEntries entries)) := by
  refine ⟨fun index h hlt => ?_, fun index h order horder hlt => decode_frame_payloadIn h horder hlt,
    fun index hle => ?_, fun entries hlt => ?_⟩
  · exact ⟨_, encode_of_lt hlt, decode_frame_payloadIn h (List.Perm.refl _) hlt⟩
  · rw [encode]
    exact if_neg (Nat.not_lt.mpr hle)
  · have hread := decode_frame_payloadIn (writable_ofEntries hlt) (List.Perm.refl _) hlt
    exact ⟨_, encode_of_lt hlt, hread.1 ((check_eq_ok_iff _).mpr (sound_ofEntries entries))⟩

/-- Titles, addresses and tokens with quotes, backslashes, control characters and letters beyond ASCII,
and a document without tokens. -/
def quotedEntries : List Entry :=
  [⟨"say \"hi\"", "C:\\a\\b.html", ["tab\there", "\u0001", "na\u00efve", "tab\there"]⟩, ⟨"", "/\u001f", []⟩]

def misnumberedIndex : Index := ⟨∅, #[⟨3, "\\", "\"", "", -0.0⟩]⟩

def oversizedIndex : Index := ⟨∅, #[⟨0, "", "", String.ofList (List.replicate (2 ^ 32) 'a'), 1.0⟩]⟩

theorem decode_encode_quotedEntries :
    (∃ bytes : Bytes, encode (Index.ofEntries quotedEntries) = .ok bytes ∧
      decode bytes = .ok (Index.ofEntries quotedEntries)) ∧
    decode (frame (payloadIn (Index.ofEntries quotedEntries).postings.toList.reverse
      (Index.ofEntries quotedEntries))) = .ok (Index.ofEntries quotedEntries) ∧
    (∃ bytes : Bytes, encode misnumberedIndex = .ok bytes ∧
      decode bytes = .error (.unsound (.misnumbered 0 3))) ∧
    encode oversizedIndex = .error (.tooLarge (payloadOf oversizedIndex).length) := by
  obtain ⟨hwritable, hordered, hoversized, hbuilt⟩ := decode_encode
  refine ⟨hbuilt quotedEntries (by decide +kernel), ?_, ?_, hoversized oversizedIndex ?_⟩
  · exact (hordered _ (writable_ofEntries (by decide +kernel)) _ (List.reverse_perm _)
      (by decide +kernel)).1 ((check_eq_ok_iff _).mpr (sound_ofEntries quotedEntries))
  · have hstorable : Writable misnumberedIndex :=
      ⟨fun d hd => by rw [List.mem_singleton.mp (Array.mem_toList_iff.mpr hd)]; exact ⟨by decide, rfl⟩,
        fun term ids hterm => by simp [misnumberedIndex] at hterm⟩
    obtain ⟨bytes, hencode, -, hfault⟩ := hwritable misnumberedIndex hstorable (by decide +kernel)
    exact ⟨bytes, hencode, hfault _ rfl⟩
  · have hmem : ⟨0, "", "", String.ofList (List.replicate (2 ^ 32) 'a'), 1.0⟩ ∈ oversizedIndex.documents :=
      Array.mem_toList_iff.mp List.mem_cons_self
    have htext := length_text_le hmem
    rwa [String.toList_ofList, List.length_replicate] at htext

end Concordance.Proofs.Snapshot.RoundTrip
