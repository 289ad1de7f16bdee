import Concordance.Proofs.Json.Containers

/-!
# A value's text holds the texts of its parts

So the length of a text bounds the lengths of all parts of the value, and the number of its items.
-/
namespace Concordance.Proofs.Json.Lengths

open Concordance.Json Running Containers

theorem length_le_utf8Of (text : List Char) : text.length ≤ (Text.utf8Of text).length := by
  induction text with
  | nil => exact Nat.zero_le _
  | cons c text ih =>
    have hc := Char.utf8Size_pos c
    rw [utf8Of_cons, List.length_append, String.length_utf8EncodeChar, List.length_cons]
    omega

theorem infix_joined {between piece : List Char} {pieces : List (List Char)} (h : piece ∈ pieces) :
    piece <:+: Value.joined between pieces := by
  induction pieces with
  | nil => exact absurd h List.not_mem_nil
  | cons p pieces ih =>
    cases pieces with
    | nil =>
      rw [List.mem_singleton.mp h]
      exact List.infix_rfl
    | cons p' pieces =>
      rw [Value.joined]
      · rcases List.mem_cons.mp h with rfl | h
        · exact ⟨[], between ++ Value.joined between (p' :: pieces), by simp⟩
        · exact (ih h).trans ⟨p ++ between, [], by simp⟩
      · exact List.cons_ne_nil p' pieces

theorem infix_list {item : Value} {items : List Value} (h : item ∈ items) :
    item.compact <:+: (Value.list items).compact := by
  rw [Value.compact, compactItems_eq]
  exact (infix_joined (List.mem_map_of_mem h)).trans (List.infix_append ['['] _ [']'])

theorem infix_object (member : String × Value) {members : List (String × Value)} (h : member ∈ members) :
    member.2.compact <:+: (Value.object members).compact := by
  rw [Value.compact, compactMembers_eq]
  refine List.IsInfix.trans ?_ ((infix_joined (List.mem_map_of_mem h)).trans
    (List.infix_append ['\x7b'] _ ['\x7d']))
  exact ⟨quoted member.1.toList ++ [':'], [], by simp [memberText]⟩

/-- No character of a text is written as nothing. -/
theorem length_le_text (s : String) : s.toList.length ≤ (Value.text s).compact.length := by
  have hchar : ∀ c : Char, 0 < (quotedChar c).length := by
    intro c
    rw [quotedChar]
    split_ifs <;> exact Nat.succ_pos _
  have hchars : ∀ text : List Char, text.length ≤ (text.flatMap quotedChar).length := by
    intro text
    induction text with
    | nil => exact Nat.zero_le _
    | cons c text ih =>
      have hc := hchar c
      rw [List.flatMap_cons, List.length_append, List.length_cons]
      omega
  rw [Value.compact, quoted, List.length_cons, List.length_append]
  exact Nat.le_trans (hchars s.toList) (by omega)

/-- A list has brackets, and a comma for each item but one. -/
theorem length_items_le (items : List Value) :
    items.length ≤ (Text.utf8Of (Value.list items).compact).length := by
  have hlength := length_lt_fuel (items.map Value.compact) (byte ']') []
  have hbytes := list_bytes items []
  rw [List.length_map] at hlength
  rw [List.append_nil] at hbytes
  rw [hbytes, List.length_cons]
  omega

end Concordance.Proofs.Json.Lengths
