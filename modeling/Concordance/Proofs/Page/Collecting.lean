import Mathlib.Data.List.Sort
import Concordance.Intake
import Concordance.Proofs.Files.Listings

/-!
# The page files of a folder

The search for page files takes up one folder after another and sets those that it finds aside. Nothing is
missed and nothing comes twice: what is still to come is at every step what lies in the folders set aside,
no two of which have a place in common. The files found are then put in the order of their places, so that
neither the pages of a folder nor the ids they get depend on how the folders are listed.
-/
namespace Concordance.Proofs.Page.Collecting

open Concordance.Files Concordance.Page Files.Listings

/-- Whether a name ends in a dot and some more, which holds no dot, with something before the dot. -/
def HasExtension (name extension : String) : Prop :=
  '.' ∉ extension.toList ∧ ∃ stem, stem ≠ "" ∧ name = stem ++ "." ++ extension

def IsPagePlace (place : List String) : Prop :=
  ∃ way name, place = way ++ [name] ∧ HasExtension name "json"

theorem isFileName_iff (name : String) : isFileName name = true ↔ HasExtension name "json" := by
  rw [isFileName, Bool.and_eq_true, List.isSuffixOf_iff_suffix, decide_eq_true_eq]
  constructor
  · rintro ⟨⟨front, hfront⟩, hlong⟩
    refine ⟨by decide, String.ofList front, fun he => ?_, ?_⟩
    · rw [← @String.length_toList name, ← hfront, String.ofList_eq_empty_iff.mp he] at hlong
      exact absurd hlong (by decide)
    · apply String.toList_injective
      rw [← hfront]
      simp
  · rintro ⟨-, stem, hne, rfl⟩
    refine ⟨⟨stem.toList, by simp⟩, ?_⟩
    have hpos : 0 < stem.length := Nat.pos_of_ne_zero fun h => hne (String.length_eq_zero_iff.mp h)
    have hjson : "json".length = 4 ∧ ".".length = 1 ∧ ".json".length = 5 := by decide
    rw [String.length_append, String.length_append]
    omega

/-- Whether a file is among those that a search of a folder is to find. -/
def Holds (p : Pending) (file : File) : Prop :=
  ∃ rest, file.place = p.place ++ rest ∧ IsFileAt (.folder p.entries) rest file.content ∧
    IsPagePlace rest

/-! ## One folder -/

theorem mem_pageFiles {p : Pending} {file : File} : file ∈ p.pageFiles ↔
    ∃ name, file.place = p.place ++ [name] ∧ (name, .file file.content) ∈ p.entries ∧
      HasExtension name "json" := by
  rw [Pending.pageFiles, List.mem_filterMap]
  constructor
  · rintro ⟨⟨name, tree⟩, hmem, h⟩
    cases tree with
    | folder entries => cases h
    | file content =>
      dsimp only at h
      split_ifs at h with hname
      obtain rfl := Option.some.inj h
      exact ⟨name, rfl, hmem, (isFileName_iff name).mp hname⟩
  · rintro ⟨name, hplace, hmem, hname⟩
    refine ⟨_, hmem, ?_⟩
    dsimp only
    rw [if_pos ((isFileName_iff name).mpr hname), ← hplace]

theorem mem_folders {p q : Pending} : q ∈ p.folders ↔
    ∃ name, q.place = p.place ++ [name] ∧ (name, .folder q.entries) ∈ p.entries := by
  rw [Pending.folders, List.mem_filterMap]
  constructor
  · rintro ⟨⟨name, tree⟩, hmem, h⟩
    cases tree with
    | file content => cases h
    | folder entries =>
      obtain rfl := Option.some.inj h
      exact ⟨name, rfl, hmem⟩
  · rintro ⟨name, hplace, hmem⟩
    exact ⟨_, hmem, by rw [← hplace]⟩

theorem isPagePlace_singleton {name : String} : IsPagePlace [name] ↔ HasExtension name "json" := by
  constructor
  · rintro ⟨way, name', h, hname⟩
    cases way with
    | nil => cases h; exact hname
    | cons first way => simp at h
  · exact fun h => ⟨[], name, rfl, h⟩

theorem isPagePlace_cons {name : String} {rest : List String} (hne : rest ≠ []) :
    IsPagePlace (name :: rest) ↔ IsPagePlace rest := by
  constructor
  · rintro ⟨way, last, h, hlast⟩
    cases way with
    | nil => exact absurd (List.cons.inj h).2 hne
    | cons first way => exact ⟨way, last, (List.cons.inj h).2, hlast⟩
  · rintro ⟨way, last, rfl, hlast⟩
    exact ⟨name :: way, last, rfl, hlast⟩

/-- The files to find are those in the folder itself and those to find in its folders. -/
theorem holds_iff {p : Pending} (h : Proper (.folder p.entries)) {file : File} :
    Holds p file ↔ file ∈ p.pageFiles ∨ ∃ q ∈ p.folders, Holds q file := by
  constructor
  · rintro ⟨rest, hplace, hfile, hpage⟩
    obtain ⟨name, more, tree, rfl, hmem, hfile⟩ := (isFileAt_folder_iff h.distinct).mp hfile
    cases tree with
    | file content =>
      obtain ⟨rfl, rfl⟩ := isFileAt_file_iff.mp hfile
      exact .inl (mem_pageFiles.mpr ⟨name, hplace, hmem, isPagePlace_singleton.mp hpage⟩)
    | folder entries =>
      refine .inr ⟨⟨p.place ++ [name], entries⟩, mem_folders.mpr ⟨name, rfl, hmem⟩, more, ?_, hfile,
        (isPagePlace_cons (ne_nil_of_isFileAt hfile)).mp hpage⟩
      rw [hplace, List.append_assoc, List.singleton_append]
  · rintro (hfile | ⟨q, hq, more, hplace, hfile, hpage⟩)
    · obtain ⟨name, hplace, hmem, hname⟩ := mem_pageFiles.mp hfile
      refine ⟨[name], hplace, ?_, isPagePlace_singleton.mpr hname⟩
      exact (isFileAt_folder_iff h.distinct).mpr ⟨name, [], _, rfl, hmem, rfl⟩
    · obtain ⟨name, hname, hmem⟩ := mem_folders.mp hq
      refine ⟨name :: more, ?_, ?_, (isPagePlace_cons (ne_nil_of_isFileAt hfile)).mpr hpage⟩
      · rw [hplace, hname, List.append_assoc, List.singleton_append]
      · exact (isFileAt_folder_iff h.distinct).mpr ⟨name, more, _, rfl, hmem, hfile⟩

/-! ## The search -/

/-- The folders that are set aside by one step of a search are as proper as those before it. -/
theorem proper_next {p : Pending} {pending : List Pending}
    (h : ∀ q ∈ p :: pending, Proper (.folder q.entries)) :
    ∀ q ∈ p.folders.reverse ++ pending, Proper (.folder q.entries) := by
  obtain ⟨hp, hpending⟩ := List.forall_mem_cons.mp h
  intro q hq
  rcases List.mem_append.mp hq with hq | hq
  · obtain ⟨name, -, hmem⟩ := mem_folders.mp (List.mem_reverse.mp hq)
    exact hp.inner _ hmem
  · exact hpending q hq

/-- Every file below the folders of a search is found, and nothing else. -/
theorem mem_search {pending : List Pending} (h : ∀ p ∈ pending, Proper (.folder p.entries))
    (file : File) : file ∈ search pending ↔ ∃ p ∈ pending, Holds p file := by
  induction pending using search.induct with
  | case1 => simp [search]
  | case2 p pending ih =>
    have hp : Proper (.folder p.entries) := h p List.mem_cons_self
    rw [search, List.mem_append, ih (proper_next h)]
    simp only [List.mem_append, List.mem_reverse, List.mem_cons, or_and_right, exists_or,
      exists_eq_left, holds_iff hp, or_assoc]

def Apart (p q : Pending) : Prop :=
  ∀ rest more, p.place ++ rest ≠ q.place ++ more

theorem Apart.symm {p q : Pending} (h : Apart p q) : Apart q p :=
  fun rest more he => h more rest he.symm

theorem apart_of_mem_folders {p q r : Pending} (h : Apart p r) (hq : q ∈ p.folders) : Apart q r := by
  obtain ⟨name, hname, -⟩ := mem_folders.mp hq
  intro rest more he
  rw [hname, List.append_assoc] at he
  exact h _ _ he

/-- No two entries of a folder have the same name. -/
theorem pairwise_entries {p : Pending} (h : Proper (.folder p.entries)) :
    p.entries.Pairwise fun entry other => entry.1 ≠ other.1 :=
  List.pairwise_map.mp h.distinct

theorem pairwise_folders {p : Pending} (h : Proper (.folder p.entries)) : p.folders.Pairwise Apart := by
  rw [Pending.folders, List.pairwise_filterMap]
  refine (pairwise_entries h).imp fun {entry other} hne q hq r hr => ?_
  obtain ⟨name, tree⟩ := entry
  obtain ⟨name', tree'⟩ := other
  cases tree with
  | file content => cases hq
  | folder entries =>
    cases tree' with
    | file content => cases hr
    | folder entries' =>
      obtain rfl := Option.some.inj hq
      obtain rfl := Option.some.inj hr
      intro rest more he
      rw [List.append_assoc, List.append_assoc] at he
      exact hne (List.cons.inj (List.append_cancel_left he)).1

theorem pairwise_pageFiles {p : Pending} (h : Proper (.folder p.entries)) :
    p.pageFiles.Pairwise fun file other => file.place ≠ other.place := by
  rw [Pending.pageFiles, List.pairwise_filterMap]
  refine (pairwise_entries h).imp fun {entry other} hne file hfile more hmore => ?_
  obtain ⟨name, tree⟩ := entry
  obtain ⟨name', tree'⟩ := other
  cases tree with
  | folder entries => cases hfile
  | file content =>
    cases tree' with
    | folder entries => cases hmore
    | file content' =>
      dsimp only at hfile hmore
      split_ifs at hfile hmore
      obtain rfl := Option.some.inj hfile
      obtain rfl := Option.some.inj hmore
      exact fun he => hne (List.cons.inj (List.append_cancel_left he)).1

/-- No file is found twice. -/
theorem pairwise_search {pending : List Pending} (h : ∀ p ∈ pending, Proper (.folder p.entries))
    (hapart : pending.Pairwise Apart) :
    (search pending).Pairwise fun file other => file.place ≠ other.place := by
  induction pending using search.induct with
  | case1 =>
    rw [search]
    exact List.Pairwise.nil
  | case2 p pending ih =>
    have hp : Proper (.folder p.entries) := h p List.mem_cons_self
    obtain ⟨hpapart, hrest⟩ := List.pairwise_cons.mp hapart
    have hnext : (p.folders.reverse ++ pending).Pairwise Apart := by
      refine List.pairwise_append.mpr ⟨?_, hrest, fun q hq r hr => ?_⟩
      · exact List.pairwise_reverse.mpr ((pairwise_folders hp).imp Apart.symm)
      · exact apart_of_mem_folders (hpapart r hr) (List.mem_reverse.mp hq)
    rw [search]
    refine List.pairwise_append.mpr ⟨pairwise_pageFiles hp, ih (proper_next h) hnext, ?_⟩
    -- a file in the folder itself is neither below one of its folders nor below another one
    intro file hfile other hother
    obtain ⟨name, hplace, -, -⟩ := mem_pageFiles.mp hfile
    obtain ⟨q, hq, rest, hrest, hlies, -⟩ := (mem_search (proper_next h) other).mp hother
    rw [hplace, hrest]
    rcases List.mem_append.mp hq with hq | hq
    · obtain ⟨name', hname, -⟩ := mem_folders.mp (List.mem_reverse.mp hq)
      rw [hname, List.append_assoc]
      intro he
      obtain ⟨-, rfl⟩ : name = name' ∧ [] = rest := List.cons.inj (List.append_cancel_left he)
      cases hlies
    · exact hpapart q hq [name] rest

/-! ## All page files of a folder -/

/-- The page files of a tree are its files at the places of page files. -/
theorem mem_filesOf {tree : Tree} (h : Proper tree) (file : File) :
    file ∈ filesOf tree ↔ IsFileAt tree file.place file.content ∧ IsPagePlace file.place := by
  cases tree with
  | file content =>
    refine iff_of_false (by simp [filesOf]) ?_
    rintro ⟨hfile, way, name, hplace, -⟩
    rw [(isFileAt_file_iff.mp hfile).1] at hplace
    simp at hplace
  | folder entries =>
    rw [filesOf, (List.mergeSort_perm _ _).mem_iff, mem_search (List.forall_mem_singleton.mpr h)]
    simp [Holds]

/-- They stand in the order of their places, each once. -/
theorem ordered_filesOf {tree : Tree} (h : Proper tree) :
    (filesOf tree).Pairwise fun file other => Precedes file.place other.place := by
  cases tree with
  | file content => exact List.Pairwise.nil
  | folder entries =>
    have hdistinct : (filesOf (.folder entries)).Pairwise fun file other => file.place ≠ other.place :=
      (List.mergeSort_perm _ _).symm.pairwise
        (pairwise_search (List.forall_mem_singleton.mpr h) (List.pairwise_singleton _ _)) fun h => h.symm
    have hsorted : (filesOf (.folder entries)).Pairwise fun file other => file.before other = true :=
      List.pairwise_mergeSort (fun a b c => placeBefore_trans a.place b.place c.place)
        (fun a b => placeBefore_total a.place b.place) _
    exact (hsorted.and hdistinct).imp fun h => (placeBefore_iff.mp h.1).resolve_left h.2

/-- The order in which the folders are listed does not matter. -/
theorem filesOf_relisted {tree other : Tree} (hproper : Proper tree) (h : Relisted tree other) :
    filesOf other = filesOf tree := by
  obtain ⟨hproper', hfiles⟩ := relisted_same h hproper
  have hirrefl : Std.Irrefl fun file other : File => Precedes file.place other.place :=
    ⟨fun file => Std.Irrefl.irrefl file.place⟩
  have hantisymm : Std.Antisymm fun file other : File => Precedes file.place other.place :=
    ⟨fun file other h h' => absurd h' (Std.Asymm.asymm _ _ h)⟩
  refine (ordered_filesOf hproper').eq_of_mem_iff (ordered_filesOf hproper) fun file => ?_
  rw [mem_filesOf hproper', mem_filesOf hproper, hfiles]

theorem isName_of_isFileAt {tree : Tree} (h : Proper tree) {place : List String}
    {content : Except Error Bytes} (hfile : IsFileAt tree place content) :
    ∀ name ∈ place, IsName name := by
  induction place generalizing tree with
  | nil => simp
  | cons name place ih =>
    cases tree with
    | file content => cases hfile
    | folder entries =>
      obtain ⟨name', rest, tree, he, hmem, hrest⟩ := (isFileAt_folder_iff h.distinct).mp hfile
      obtain ⟨rfl, rfl⟩ := List.cons.inj he
      exact List.forall_mem_cons.mpr ⟨h.named _ hmem, ih (h.inner _ hmem) hrest⟩

/-- The paths of page files have the names of the folder in front of those on the way to the file. -/
theorem components_filesOf {tree : Tree} (h : Proper tree) (dir : String) {file : File}
    (hfile : file ∈ filesOf tree) : components (below dir file.place) = components dir ++ file.place :=
  components_below dir (isName_of_isFileAt h ((mem_filesOf h file).mp hfile).1)

theorem paths_readAll (dir : String) (tree : Tree) :
    (readAll dir tree).map Prod.fst = (filesOf tree).map fun file => below dir file.place := by
  rw [readAll, List.map_map]
  rfl

/-- The paths of page files come name by name in order. -/
theorem ordered_paths {tree : Tree} (h : Proper tree) (dir : String) :
    ((readAll dir tree).map Prod.fst).Pairwise fun path other =>
      Precedes (components path) (components other) := by
  rw [paths_readAll, List.pairwise_map]
  refine (ordered_filesOf h).imp_of_mem fun {file other} hfile hother hbefore => ?_
  rw [components_filesOf h dir hfile, components_filesOf h dir hother]
  exact List.Lex.append_left _ hbefore _

/-- The search of a folder finds the page files at any depth and no other file, each once and in the order
of the names on the way to it; the order in which folders are listed shows neither in what is read nor in
what becomes of it. -/
theorem filesOf_complete_reproducible {tree other : Tree} (hproper : Proper tree)
    (hlisted : Relisted tree other) (dir : String) :
    (∀ file, file ∈ filesOf tree ↔ IsFileAt tree file.place file.content ∧
      ∃ way name, file.place = way ++ [name] ∧ HasExtension name "json") ∧
    ((filesOf tree).Pairwise fun file next => Precedes file.place next.place) ∧
    (readAll dir tree).map Prod.fst = (filesOf tree).map (fun file => below dir file.place) ∧
    (∀ file ∈ filesOf tree, components (below dir file.place) = components dir ++ file.place) ∧
    ((readAll dir tree).map Prod.fst).Pairwise
      (fun path next => Precedes (components path) (components next)) ∧
    filesOf other = filesOf tree ∧
    readAll dir other = readAll dir tree ∧
    ∀ intake : Intake, intake.addFolder dir (.ok other) = intake.addFolder dir (.ok tree) := by
  have hfiles : filesOf other = filesOf tree := filesOf_relisted hproper hlisted
  have hread : readAll dir other = readAll dir tree := by rw [readAll, readAll, hfiles]
  refine ⟨mem_filesOf hproper, ordered_filesOf hproper, paths_readAll dir tree,
    fun file hfile => components_filesOf hproper dir hfile, ordered_paths hproper dir, hfiles, hread,
    fun intake => ?_⟩
  rw [Intake.addFolder, Intake.addFolder, hread]

/-! ## A crawl -/

def crawl : Tree :=
  .folder [("x.json", .folder [("b.json", .file (.ok [])), ("a.json", .file (.ok []))]),
    (".json", .file (.ok [])), ("a.json", .file (.error .notText)),
    ("a", .folder [("c.JSON", .file (.ok [])), ("b.json", .file (.ok []))])]

/-- The same crawl, with two of its folders listed from the other end. -/
def crawlAnew : Tree :=
  .folder [("a", .folder [("b.json", .file (.ok [])), ("c.JSON", .file (.ok []))]),
    ("a.json", .file (.error .notText)), (".json", .file (.ok [])),
    ("x.json", .folder [("b.json", .file (.ok [])), ("a.json", .file (.ok []))])]

theorem proper_crawl : Proper crawl := by
  have hname : ∀ name ∈ ["x.json", "b.json", "a.json", ".json", "a", "c.JSON"], IsName name := by
    have h : ∀ name ∈ ["x.json", "b.json", "a.json", ".json", "a", "c.JSON"],
        name ≠ "" ∧ name ≠ "." ∧ name ≠ ".." ∧ '/' ∉ name.toList := by decide
    exact fun name hmem => ⟨(h name hmem).1, (h name hmem).2.1, (h name hmem).2.2.1, (h name hmem).2.2.2⟩
  have hx : Proper (.folder [("b.json", .file (.ok [])), ("a.json", .file (.ok []))]) :=
    .folder (by decide) (by simp [hname]) (by simp [Proper.file])
  have ha : Proper (.folder [("c.JSON", .file (.ok [])), ("b.json", .file (.ok []))]) :=
    .folder (by decide) (by simp [hname]) (by simp [Proper.file])
  exact .folder (by decide) (by simp [hname]) (by simp [Proper.file, hx, ha])

theorem relisted_crawl : Relisted crawl crawlAnew :=
  .trans (.here (List.reverse_perm _).symm) (.inside (.here (List.Perm.swap _ _ _)) [] _ "a")

/-- In the crawl four page files are found, whichever way it is listed. -/
theorem filesOf_crawl :
    Proper crawl ∧ Relisted crawl crawlAnew ∧
    (filesOf crawl).map File.place =
      [["a", "b.json"], ["a.json"], ["x.json", "a.json"], ["x.json", "b.json"]] ∧
    filesOf crawlAnew = filesOf crawl ∧
    Intake.empty.addFolder "crawl" (.ok crawlAnew) = Intake.empty.addFolder "crawl" (.ok crawl) := by
  have hname : isFileName "x.json" = true ∧ isFileName "b.json" = true ∧ isFileName "a.json" = true ∧
      isFileName ".json" = false ∧ isFileName "c.JSON" = false := by decide +kernel
  have hbefore : placeBefore ["a.json"] ["a", "b.json"] = false ∧
      placeBefore ["x.json", "b.json"] ["x.json", "a.json"] = false ∧
      placeBefore ["a", "b.json"] ["x.json", "a.json"] = true ∧
      placeBefore ["a.json"] ["x.json", "a.json"] = true := by decide +kernel
  obtain ⟨-, -, -, -, -, hfiles, -, htaken⟩ :=
    filesOf_complete_reproducible proper_crawl relisted_crawl "crawl"
  refine ⟨proper_crawl, relisted_crawl, ?_, hfiles, htaken Intake.empty⟩
  simp [crawl, filesOf, search, Pending.pageFiles, Pending.folders, hname, List.mergeSort,
    File.before, hbefore]

end Concordance.Proofs.Page.Collecting
