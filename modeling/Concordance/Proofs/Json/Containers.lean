import Concordance.Json.Record
import Concordance.Proofs.Json.Texts

/-!
# Lists, maps and records come back from their parts

What a list or an object is made of comes back if each part does. A record is read member by member,
each of which must find its field untaken; `Fills` is that run, from one state of the record to another.
-/
namespace Concordance.Proofs.Json.Containers

open Concordance.Json Reader Running Texts

variable {α σ : Type}

/-! ## Pieces between commas -/

/-- What stands in front of a piece: nothing before the first one, and a comma before each other. -/
def lead (isFirst : Bool) : Bytes :=
  if isFirst then [] else [byte ',']

def piecesBytes : Bool → List (List Char) → Bytes
  | _, [] => []
  | isFirst, piece :: pieces => lead isFirst ++ (Text.utf8Of piece ++ piecesBytes false pieces)

theorem utf8Of_joined (pieces : List (List Char)) :
    Text.utf8Of (Value.joined [','] pieces) = piecesBytes true pieces := by
  induction pieces with
  | nil => rfl
  | cons piece pieces ih =>
    cases pieces with
    | nil => exact (List.append_nil _).symm
    | cons p pieces =>
      rw [Value.joined, utf8Of_append, utf8Of_append, ih, List.append_assoc]
      · rfl
      · exact List.cons_ne_nil p pieces

theorem length_le_piecesBytes (pieces : List (List Char)) :
    pieces.length ≤ (piecesBytes false pieces).length := by
  induction pieces with
  | nil => exact Nat.zero_le _
  | cons piece pieces ih =>
    have hlead : (lead false).length = 1 := rfl
    rw [piecesBytes, List.length_cons, List.length_append, List.length_append]
    omega

/-- There is a byte for each piece or the bracket after the pieces, so no piece lacks fuel. -/
theorem length_lt_fuel (pieces : List (List Char)) (closing : UInt8) (rest : Bytes) :
    pieces.length < (piecesBytes true pieces ++ closing :: rest).length + 1 := by
  cases pieces with
  | nil => exact Nat.succ_pos _
  | cons piece pieces =>
    have hmore := length_le_piecesBytes pieces
    rw [piecesBytes, List.length_append, List.length_append, List.length_append, List.length_cons,
      List.length_cons]
    omega

/-- After a piece comes what may follow a value: a comma, or what closes the pieces. -/
theorem delimited_piecesBytes (pieces : List (List Char)) {closing : Bytes} (h : Delimited closing) :
    Delimited (piecesBytes false pieces ++ closing) := by
  cases pieces with
  | nil => exact h
  | cons piece pieces => exact delimited_comma _

/-! ## Lists -/

theorem hasElement_end (isFirst : Bool) (rest : Bytes) :
    hasElement isFirst (byte ']' :: rest) = .ok (false, byte ']' :: rest) := by
  rw [hasElement, look_bind rfl]
  rfl

theorem hasElement_lead (isFirst : Bool) {b : UInt8} (hblank : isBlank b = false) (hne : b ≠ byte ']')
    (rest : Bytes) : hasElement isFirst (lead isFirst ++ b :: rest) = .ok (true, b :: rest) := by
  cases isFirst with
  | true =>
    change hasElement true (b :: rest) = _
    rw [hasElement, look_bind hblank]
    simp only [if_neg hne, if_true, pure_run]
  | false =>
    change hasElement false (byte ',' :: b :: rest) = _
    rw [hasElement, look_bind rfl]
    simp only [if_neg (show byte ',' ≠ byte ']' by decide), Bool.false_eq_true, if_false, if_true, skip_bind,
      List.tail_cons]
    rw [look_bind hblank]
    simp only [if_neg hne, pure_run]

theorem endList_run (rest : Bytes) : endList (byte ']' :: rest) = .ok ((), rest) := by
  rw [endList, look_bind rfl]
  rfl

theorem compactItems_eq (items : List Value) : Value.compactItems items = items.map Value.compact := by
  induction items with
  | nil => rfl
  | cons item items ih => rw [Value.compactItems, ih, List.map_cons]

theorem list_bytes (items : List Value) (rest : Bytes) :
    Text.utf8Of (Value.list items).compact ++ rest =
      byte '[' :: (piecesBytes true (items.map Value.compact) ++ byte ']' :: rest) := by
  rw [Value.compact, compactItems_eq, utf8Of_cons_of_le (by decide), utf8Of_append, utf8Of_joined,
    utf8Of_cons_of_le (by decide), utf8Of_nil, List.cons_append, List.append_assoc, List.singleton_append]

def Opens (value : Value) : Prop :=
  ∃ (b : UInt8) (more : Bytes), Text.utf8Of value.compact = b :: more ∧ isBlank b = false ∧ b ≠ byte ']'

section
variable {item : Reader α} {write : α → Value}

/-- The elements that are left are put in front of those that were taken. -/
theorem elements_pieces {items : List α} (hopens : ∀ x ∈ items, Opens (write x))
    (hitems : ∀ x ∈ items, Restores item (write x) x) {fuel : Nat} (hfuel : items.length < fuel)
    (taken : List α) (rest : Bytes) :
    elements item fuel taken
        (piecesBytes taken.isEmpty ((items.map write).map Value.compact) ++ byte ']' :: rest) =
      .ok (items.reverse ++ taken, byte ']' :: rest) := by
  induction items generalizing fuel taken with
  | nil =>
    obtain ⟨fuel, rfl⟩ := Nat.exists_eq_succ_of_ne_zero (Nat.ne_zero_of_lt hfuel)
    rw [elements]
    exact bind_of_ok (hasElement_end taken.isEmpty rest) _
  | cons x items ih =>
    obtain ⟨fuel, rfl⟩ := Nat.exists_eq_succ_of_ne_zero (Nat.ne_zero_of_lt hfuel)
    obtain ⟨b, more, hx, hblank, hne⟩ := hopens x List.mem_cons_self
    have hread := hitems x List.mem_cons_self _
      (delimited_piecesBytes ((items.map write).map Value.compact) (delimited_bracket rest))
    have hmore := ih (fun y hy => hopens y (List.mem_cons_of_mem x hy))
      (fun y hy => hitems y (List.mem_cons_of_mem x hy)) (Nat.lt_of_succ_lt_succ hfuel) (x :: taken)
    rw [hx, List.cons_append] at hread
    rw [elements, List.map_cons, List.map_cons, piecesBytes, hx, List.append_assoc, List.append_assoc,
      List.cons_append, bind_of_ok (hasElement_lead _ hblank hne _), if_pos rfl, bind_of_ok hread,
      List.reverse_cons, List.append_assoc]
    exact hmore

/-- A list comes back if its elements do. -/
theorem restores_list {items : List α} (hopens : ∀ x ∈ items, Opens (write x))
    (hitems : ∀ x ∈ items, Restores item (write x) x) :
    Restores (Reader.list item) (.list (items.map write)) items := by
  intro rest _
  have hfuel := length_lt_fuel ((items.map write).map Value.compact) (byte ']') rest
  rw [List.length_map, List.length_map] at hfuel
  have helements := elements_pieces hopens hitems hfuel [] rest
  rw [List.isEmpty_nil, List.append_nil] at helements
  rw [list_bytes, Reader.list, bind_of_ok (first_cons rfl _), if_pos rfl, skip_bind, List.tail_cons, left_bind,
    bind_of_ok helements, bind_of_ok (endList_run rest), pure_run, List.reverse_reverse]

end

/-! ## Keys -/

def memberText (member : String × Value) : List Char :=
  quoted member.1.toList ++ ':' :: member.2.compact

theorem memberText_bytes (member : String × Value) (rest : Bytes) :
    Text.utf8Of (memberText member) ++ rest =
      Text.utf8Of (quoted member.1.toList) ++ byte ':' :: (Text.utf8Of member.2.compact ++ rest) := by
  rw [memberText, utf8Of_append, utf8Of_cons_of_le (by decide), List.append_assoc, List.cons_append]

theorem hasKey_end (isFirst : Bool) (rest : Bytes) :
    hasKey isFirst (byte '\x7d' :: rest) = .ok (false, byte '\x7d' :: rest) := by
  rw [hasKey, look_bind rfl]
  rfl

/-- A member starts with the quote of its key. -/
theorem hasKey_lead (isFirst : Bool) (member : String × Value) (rest : Bytes) :
    hasKey isFirst (lead isFirst ++ (Text.utf8Of (memberText member) ++ rest)) =
      .ok (true, Text.utf8Of (memberText member) ++ rest) := by
  obtain ⟨more, hmore⟩ : ∃ more : Bytes, Text.utf8Of (memberText member) ++ rest = byte '"' :: more :=
    ⟨_, by rw [memberText_bytes, utf8Of_quoted, List.cons_append]⟩
  rw [hmore]
  cases isFirst with
  | true =>
    change hasKey true (byte '"' :: more) = _
    rw [hasKey, look_bind rfl]
    rfl
  | false =>
    change hasKey false (byte ',' :: byte '"' :: more) = _
    rw [hasKey, look_bind rfl]
    rfl

theorem key_memberText (member : String × Value) (rest : Bytes) :
    key (Text.utf8Of (memberText member) ++ rest) =
      .ok (member.1, byte ':' :: (Text.utf8Of member.2.compact ++ rest)) := by
  rw [memberText_bytes]
  exact key_quoted member.1 _

theorem colon_run (rest : Bytes) : colon (byte ':' :: rest) = .ok ((), rest) := by
  rw [colon, look_bind rfl]
  rfl

theorem endObject_run (rest : Bytes) : endObject (byte '\x7d' :: rest) = .ok ((), rest) := by
  rw [endObject, look_bind rfl]
  rfl

theorem compactMembers_eq (members : List (String × Value)) :
    Value.compactMembers members = members.map memberText := by
  induction members with
  | nil => rfl
  | cons member members ih =>
    obtain ⟨key, value⟩ := member
    rw [Value.compactMembers, ih, List.map_cons]
    rfl

theorem object_bytes (members : List (String × Value)) (rest : Bytes) :
    Text.utf8Of (Value.object members).compact ++ rest =
      byte '\x7b' :: (piecesBytes true (members.map memberText) ++ byte '\x7d' :: rest) := by
  rw [Value.compact, compactMembers_eq, utf8Of_cons_of_le (by decide), utf8Of_append, utf8Of_joined,
    utf8Of_cons_of_le (by decide), utf8Of_nil, List.cons_append, List.append_assoc, List.singleton_append]

/-! ## Maps -/

section
variable {item : Reader α} {write : α → Value}

def written (write : α → Value) (entry : String × α) : String × Value :=
  (entry.1, write entry.2)

theorem members_pieces {entries : List (String × α)}
    (hentries : ∀ e ∈ entries, Restores item (written write e).2 e.2) {fuel : Nat}
    (hfuel : entries.length < fuel) (taken : List (String × α)) (rest : Bytes) :
    members item fuel taken
        (piecesBytes taken.isEmpty ((entries.map (written write)).map memberText) ++ byte '\x7d' :: rest) =
      .ok (entries.reverse ++ taken, byte '\x7d' :: rest) := by
  induction entries generalizing fuel taken with
  | nil =>
    obtain ⟨fuel, rfl⟩ := Nat.exists_eq_succ_of_ne_zero (Nat.ne_zero_of_lt hfuel)
    rw [members]
    exact bind_of_ok (hasKey_end taken.isEmpty rest) _
  | cons e entries ih =>
    obtain ⟨fuel, rfl⟩ := Nat.exists_eq_succ_of_ne_zero (Nat.ne_zero_of_lt hfuel)
    have hread := hentries e List.mem_cons_self _
      (delimited_piecesBytes ((entries.map (written write)).map memberText) (delimited_brace rest))
    have hmore := ih (fun e' he' => hentries e' (List.mem_cons_of_mem e he'))
      (Nat.lt_of_succ_lt_succ hfuel) (e :: taken)
    rw [members, List.map_cons, List.map_cons, piecesBytes, List.append_assoc, List.append_assoc,
      bind_of_ok (hasKey_lead _ _ _), if_pos rfl, bind_of_ok (key_memberText _ _), bind_of_ok (colon_run _),
      bind_of_ok hread, List.reverse_cons, List.append_assoc]
    exact hmore

/-- A map comes back, in the order of its members, if its values do. -/
theorem restores_map {entries : List (String × α)}
    (hentries : ∀ e ∈ entries, Restores item (written write e).2 e.2) :
    Restores (Reader.map item) (.object (entries.map (written write))) entries := by
  intro rest _
  have hfuel := length_lt_fuel ((entries.map (written write)).map memberText) (byte '\x7d') rest
  rw [List.length_map, List.length_map] at hfuel
  have hmembers := members_pieces hentries hfuel [] rest
  rw [List.isEmpty_nil, List.append_nil] at hmembers
  rw [object_bytes, Reader.map, bind_of_ok (first_cons rfl _), if_pos rfl, skip_bind, List.tail_cons, left_bind,
    bind_of_ok hmembers, bind_of_ok (endObject_run rest), pure_run, List.reverse_reverse]

end

/-! ## Records -/

/-- A record that goes from one state to another over some members: each has a field, which was not
taken before and reads what is written. -/
inductive Fills (record : Record σ α) : σ → List (String × Value) → σ → Prop
  | nil (s : σ) : Fills record s [] s
  | cons {s s' s'' : σ} {member : String × Value} {members : List (String × Value)} {field : Json.Field σ}
      (hfind : record.fields.find? (fun field => field.keys.contains member.1) = some field)
      (htaken : field.taken s = false) (hread : Restores (field.read s) member.2 s')
      (hmore : Fills record s' members s'') : Fills record s (member :: members) s''

section
variable {record : Record σ α} {members : List (String × Value)} {s s' : σ}

theorem keyed_pieces (h : Fills record s members s') {fuel : Nat} (hfuel : members.length < fuel)
    (isFirst : Bool) (rest : Bytes) :
    record.keyed fuel isFirst s (piecesBytes isFirst (members.map memberText) ++ byte '\x7d' :: rest) =
      .ok (s', byte '\x7d' :: rest) := by
  induction h generalizing fuel isFirst with
  | nil s =>
    obtain ⟨fuel, rfl⟩ := Nat.exists_eq_succ_of_ne_zero (Nat.ne_zero_of_lt hfuel)
    rw [Record.keyed]
    exact bind_of_ok (hasKey_end isFirst rest) _
  | @cons s s' s'' member members field hfind htaken hread hmore ih =>
    obtain ⟨fuel, rfl⟩ := Nat.exists_eq_succ_of_ne_zero (Nat.ne_zero_of_lt hfuel)
    have hvalue := hread _ (delimited_piecesBytes (members.map memberText) (delimited_brace rest))
    rw [Record.keyed, List.map_cons, piecesBytes, List.append_assoc, List.append_assoc,
      bind_of_ok (hasKey_lead _ _ _), if_pos rfl, bind_of_ok (key_memberText _ _)]
    simp only [hfind, htaken, Bool.false_eq_true, if_false]
    rw [bind_of_ok (colon_run _), bind_of_ok hvalue]
    exact ih (Nat.lt_of_succ_lt_succ hfuel) false

/-- A record comes back if its members fill it. -/
theorem restores_record {a : α} (h : Fills record record.start members s')
    (hfinish : record.finish s' = .ok a) : Restores record.reader (.object members) a := by
  intro rest _
  have hfuel := length_lt_fuel (members.map memberText) (byte '\x7d') rest
  rw [List.length_map] at hfuel
  have hkeyed := keyed_pieces h hfuel true rest
  have hvalue : (liftM (Except.ok a : Except Fault α) : Reader α) (byte '\x7d' :: rest) =
      .ok (a, byte '\x7d' :: rest) := rfl
  rw [object_bytes, Record.reader, bind_of_ok (first_cons rfl _), if_neg (by decide), if_pos rfl, skip_bind,
    List.tail_cons, left_bind, bind_of_ok hkeyed, hfinish, bind_of_ok hvalue, bind_of_ok (endObject_run rest),
    pure_run]

end

end Concordance.Proofs.Json.Containers
