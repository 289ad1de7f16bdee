import Mathlib.Data.List.Lex
import Mathlib.Data.String.Basic
import Concordance.Files.Tree

/-!
# Trees of files and the order in which folders are listed

A file system holds at most one entry of a name in a folder, but lists the entries of a folder in whatever
order it likes. What lies at a place does not depend on that order. Places are compared name by name, and
so are the paths that lead to them.
-/
namespace Concordance.Proofs.Files.Listings

open Concordance.Files

structure IsName (name : String) : Prop where
  nonempty : name ≠ ""
  notHere : name ≠ "."
  notAbove : name ≠ ".."
  noSlash : '/' ∉ name.toList

inductive Proper : Tree → Prop where
  | file (content : Except Error Bytes) : Proper (.file content)
  | folder {entries : List (String × Tree)} (distinct : (entries.map Prod.fst).Nodup)
      (named : ∀ entry ∈ entries, IsName entry.1) (inner : ∀ entry ∈ entries, Proper entry.2) :
      Proper (.folder entries)

/-- The same tree, with the entries of folders at any depth listed in another order. -/
inductive Relisted : Tree → Tree → Prop where
  | refl (tree : Tree) : Relisted tree tree
  | here {entries others : List (String × Tree)} (h : entries.Perm others) :
      Relisted (.folder entries) (.folder others)
  | inside {tree other : Tree} (h : Relisted tree other) (before after : List (String × Tree))
      (name : String) :
      Relisted (.folder (before ++ (name, tree) :: after)) (.folder (before ++ (name, other) :: after))
  | trans {tree other third : Tree} (h : Relisted tree other) (h' : Relisted other third) :
      Relisted tree third

/-- The names of a path that lead somewhere. -/
def components (path : String) : List String :=
  (names path).filter fun name => !staysIn name

/-! ## What lies at a place -/

theorem Proper.distinct {entries : List (String × Tree)} (h : Proper (.folder entries)) :
    (entries.map Prod.fst).Nodup := by
  cases h with
  | folder distinct _ _ => exact distinct

theorem Proper.named {entries : List (String × Tree)} (h : Proper (.folder entries)) :
    ∀ entry ∈ entries, IsName entry.1 := by
  cases h with
  | folder _ named _ => exact named

theorem Proper.inner {entries : List (String × Tree)} (h : Proper (.folder entries)) :
    ∀ entry ∈ entries, Proper entry.2 := by
  cases h with
  | folder _ _ inner => exact inner

/-- In a folder without repeated names a look-up finds whatever entry there is. -/
theorem lookup_eq_some_iff {entries : List (String × Tree)} (h : (entries.map Prod.fst).Nodup)
    {name : String} {tree : Tree} : entries.lookup name = some tree ↔ (name, tree) ∈ entries := by
  induction entries with
  | nil => simp
  | cons entry entries ih =>
    obtain ⟨first, firstTree⟩ := entry
    obtain ⟨hfirst, hrest⟩ := List.nodup_cons.mp h
    rw [List.lookup_cons, List.mem_cons, Prod.mk.injEq]
    by_cases he : name = first
    · subst he
      have hnot : (name, tree) ∉ entries := fun hmem => hfirst (List.mem_map.mpr ⟨_, hmem, rfl⟩)
      simp [hnot, eq_comm]
    · have hne : (name == first) = false := beq_eq_false_iff_ne.mpr he
      simp [hne, he, ih hrest]

/-- What lies at a place in a folder lies in one of its entries. -/
theorem get?_folder {entries : List (String × Tree)} (h : (entries.map Prod.fst).Nodup)
    {name : String} {place : List String} {found : Tree} :
    (Tree.folder entries).get? (name :: place) = some found ↔
      ∃ tree, (name, tree) ∈ entries ∧ tree.get? place = some found := by
  rw [Tree.get?]
  simp only [← lookup_eq_some_iff h]
  cases entries.lookup name with
  | none => simp
  | some tree => simp

def IsFileAt (tree : Tree) (place : List String) (content : Except Error Bytes) : Prop :=
  tree.get? place = some (.file content)

theorem isFileAt_file_iff {content other : Except Error Bytes} {place : List String} :
    IsFileAt (.file content) place other ↔ place = [] ∧ other = content := by
  cases place with
  | nil => simp [IsFileAt, Tree.get?, eq_comm]
  | cons name place => simp [IsFileAt, Tree.get?]

theorem isFileAt_folder_iff {entries : List (String × Tree)} (h : (entries.map Prod.fst).Nodup)
    {place : List String} {content : Except Error Bytes} :
    IsFileAt (.folder entries) place content ↔ ∃ name rest tree, place = name :: rest ∧
      (name, tree) ∈ entries ∧ IsFileAt tree rest content := by
  cases place with
  | nil => simp [IsFileAt, Tree.get?]
  | cons name place =>
    rw [IsFileAt, get?_folder h]
    constructor
    · rintro ⟨tree, hmem, hfile⟩
      exact ⟨name, place, tree, rfl, hmem, hfile⟩
    · rintro ⟨name', rest, tree, he, hmem, hfile⟩
      cases he
      exact ⟨tree, hmem, hfile⟩

/-- A file of a folder is in one of its entries or in some other. -/
theorem isFileAt_inside_iff {before after : List (String × Tree)} {name : String} {tree : Tree}
    (h : ((before ++ (name, tree) :: after).map Prod.fst).Nodup) {place : List String}
    {content : Except Error Bytes} :
    IsFileAt (.folder (before ++ (name, tree) :: after)) place content ↔
      (∃ rest, place = name :: rest ∧ IsFileAt tree rest content) ∨
        ∃ first rest other, place = first :: rest ∧ (first, other) ∈ before ++ after ∧
          IsFileAt other rest content := by
  rw [isFileAt_folder_iff h]
  simp only [List.mem_append, List.mem_cons, Prod.mk.injEq]
  constructor
  · rintro ⟨first, rest, other, hplace, hmem | ⟨rfl, rfl⟩ | hmem, hfile⟩
    · exact .inr ⟨first, rest, other, hplace, .inl hmem, hfile⟩
    · exact .inl ⟨rest, hplace, hfile⟩
    · exact .inr ⟨first, rest, other, hplace, .inr hmem, hfile⟩
  · rintro (⟨rest, hplace, hfile⟩ | ⟨first, rest, other, hplace, hmem | hmem, hfile⟩)
    · exact ⟨name, rest, tree, hplace, .inr (.inl ⟨rfl, rfl⟩), hfile⟩
    · exact ⟨first, rest, other, hplace, .inl hmem, hfile⟩
    · exact ⟨first, rest, other, hplace, .inr (.inr hmem), hfile⟩

theorem ne_nil_of_isFileAt {entries : List (String × Tree)} {place : List String}
    {content : Except Error Bytes} (h : IsFileAt (.folder entries) place content) : place ≠ [] := by
  rintro rfl
  cases h

/-! ## Listing in another order -/

/-- A tree that is listed in another order is as proper, and holds the same files. -/
theorem relisted_same {tree other : Tree} (h : Relisted tree other) (hp : Proper tree) :
    Proper other ∧ ∀ place content, IsFileAt other place content ↔ IsFileAt tree place content := by
  induction h with
  | refl tree => exact ⟨hp, fun _ _ => Iff.rfl⟩
  | @here entries others h =>
    have hdistinct : (others.map Prod.fst).Nodup := ((h.map _).nodup_iff).mp hp.distinct
    refine ⟨.folder hdistinct (fun entry hentry => hp.named entry (h.mem_iff.mpr hentry))
      (fun entry hentry => hp.inner entry (h.mem_iff.mpr hentry)), fun place content => ?_⟩
    rw [isFileAt_folder_iff hp.distinct, isFileAt_folder_iff hdistinct]
    simp only [h.mem_iff]
  | @inside tree other h before after name ih =>
    have hmem : (name, tree) ∈ before ++ (name, tree) :: after := by simp
    obtain ⟨hproper, hfiles⟩ := ih (hp.inner _ hmem)
    have hdistinct : ((before ++ (name, other) :: after).map Prod.fst).Nodup := by
      simpa using hp.distinct
    have hentries : ∀ entry ∈ before ++ (name, other) :: after,
        entry = (name, other) ∨ entry ∈ before ++ (name, tree) :: after := by
      intro entry hentry
      simp only [List.mem_append, List.mem_cons] at hentry ⊢
      tauto
    refine ⟨.folder hdistinct (fun entry hentry => ?_) (fun entry hentry => ?_), fun place content => ?_⟩
    · rcases hentries entry hentry with rfl | hold
      · exact hp.named (name, tree) hmem
      · exact hp.named entry hold
    · rcases hentries entry hentry with rfl | hold
      · exact hproper
      · exact hp.inner entry hold
    · rw [isFileAt_inside_iff hp.distinct, isFileAt_inside_iff hdistinct]
      simp only [hfiles]
  | trans _ _ ih ih' =>
    obtain ⟨hproper, hfiles⟩ := ih hp
    obtain ⟨hproper', hfiles'⟩ := ih' hproper
    exact ⟨hproper', fun place content => (hfiles' place content).trans (hfiles place content)⟩

/-! ## The order of places -/

/-- Places in order: the first names that differ decide, and a folder comes before what is in it. -/
def Precedes (place other : List String) : Prop :=
  List.Lex (· < ·) place other

instance : Std.Irrefl Precedes := inferInstanceAs (Std.Irrefl (List.Lex (· < ·)))

instance : Std.Asymm Precedes := inferInstanceAs (Std.Asymm (List.Lex (· < ·)))

theorem Precedes.trans {place other third : List String} (h : Precedes place other)
    (h' : Precedes other third) : Precedes place third := by
  induction h generalizing third with
  | nil => cases h' <;> exact .nil
  | rel hlt =>
    cases h' with
    | rel hlt' => exact .rel (hlt.trans hlt')
    | cons _ => exact .rel hlt
  | cons _ ih =>
    cases h' with
    | rel hlt => exact .rel hlt
    | cons hrest => exact .cons (ih hrest)

theorem placeBefore_iff {place other : List String} :
    placeBefore place other = true ↔ place = other ∨ Precedes place other := by
  induction place generalizing other with
  | nil =>
    cases other with
    | nil => simp [placeBefore]
    | cons name other => exact iff_of_true rfl (.inr .nil)
  | cons name place ih =>
    cases other with
    | nil => exact iff_of_false (by simp [placeBefore]) (by rintro (h | h) <;> cases h)
    | cons name' other =>
      rw [placeBefore, Bool.or_eq_true, Bool.and_eq_true, decide_eq_true_eq, decide_eq_true_eq, ih,
        List.cons.injEq]
      constructor
      · rintro (hlt | ⟨rfl, rfl | hrest⟩)
        · exact .inr (.rel hlt)
        · exact .inl ⟨rfl, rfl⟩
        · exact .inr (.cons hrest)
      · rintro (⟨rfl, rfl⟩ | h)
        · exact .inr ⟨rfl, .inl rfl⟩
        · cases h with
          | rel hlt => exact .inl hlt
          | cons hrest => exact .inr ⟨rfl, .inr hrest⟩

theorem placeBefore_trans (place other third : List String) (h : placeBefore place other = true)
    (h' : placeBefore other third = true) : placeBefore place third = true := by
  rw [placeBefore_iff] at h h' ⊢
  rcases h with rfl | h
  · exact h'
  · rcases h' with rfl | h'
    · exact .inr h
    · exact .inr (h.trans h')

theorem placeBefore_total (place other : List String) :
    (placeBefore place other || placeBefore other place) = true := by
  have htrichotomous : Std.Trichotomous (List.Lex (· < · : String → String → Prop)) := inferInstance
  rw [Bool.or_eq_true, placeBefore_iff, placeBefore_iff]
  by_cases h : Precedes place other
  · exact .inl (.inr h)
  · by_cases h' : Precedes other place
    · exact .inr (.inr h')
    · exact .inl (.inl (htrichotomous.trichotomous place other h h'))

/-! ## Paths -/

def leading (text : List Char) : List String :=
  ((text.splitOnP (· == '/')).map String.ofList).filter fun name => !staysIn name

theorem leading_slash (text rest : List Char) :
    leading (text ++ '/' :: rest) = leading text ++ leading rest := by
  rw [leading, List.splitOnP_append_cons text rest rfl, List.map_append, List.filter_append]
  rfl

theorem leading_name {name : String} (h : IsName name) : leading name.toList = [name] := by
  have hsplit : name.toList.splitOnP (· == '/') = [name.toList] :=
    List.splitOnP_eq_singleton fun c hc => beq_eq_false_iff_ne.mpr fun he => h.noSlash (he ▸ hc)
  rw [leading, hsplit, List.map_singleton, String.ofList_toList]
  simp [staysIn, h.nonempty, h.notHere]

/-- The path of an entry of a folder has one name more. -/
theorem components_child (folder : String) {name : String} (h : IsName name) :
    components (child folder name) = components folder ++ [name] := by
  have hpath : ∀ path : String, components path = leading path.toList := fun _ => rfl
  rw [hpath, hpath, child]
  by_cases hempty : folder = ""
  · subst hempty
    have hname : ("" ++ name).toList = name.toList := by simp
    rw [if_pos (.inl rfl), hname, leading_name h]
    rfl
  · by_cases hlast : folder.toList.getLast? = some '/'
    · obtain ⟨front, hfront⟩ := List.getLast?_eq_some_iff.mp hlast
      have hjoined : (folder ++ name).toList = front ++ '/' :: name.toList := by
        rw [String.toList_append, hfront, List.append_assoc, List.singleton_append]
      rw [if_pos (.inr hlast), hjoined, hfront, leading_slash, leading_slash, leading_name h]
      exact congrArg (· ++ [name]) (List.append_nil _).symm
    · have hjoined : (folder ++ "/" ++ name).toList = folder.toList ++ '/' :: name.toList := by simp
      rw [if_neg (by simp [hempty, hlast]), hjoined, leading_slash, leading_name h]

/-- The path that leads to a place in a folder has its names after those of the folder. -/
theorem components_below (folder : String) {place : List String} (h : ∀ name ∈ place, IsName name) :
    components (below folder place) = components folder ++ place := by
  induction place generalizing folder with
  | nil => simp [below]
  | cons name place ih =>
    obtain ⟨hname, hplace⟩ := List.forall_mem_cons.mp h
    rw [below, List.foldl_cons, ← below, ih (child folder name) hplace, components_child folder hname,
      List.append_assoc, List.singleton_append]

end Concordance.Proofs.Files.Listings
