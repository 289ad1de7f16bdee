import Concordance.Files.Access
import Concordance.Notice
import Concordance.Page.Record

/-!
Folders of page files.

A crawl leaves each page in a file of its own, in folders of any depth. The pages of a folder are taken in
the order of the places of their files, whatever the order in which a folder is listed.
-/
namespace Concordance.Page

/-- Why a page cannot be had from a file, or no page from a folder. -/
inductive FileError where
  | unreadable (path : String) (cause : Files.Error)
  | malformed (path : String) (fault : Json.Fault)

def FileError.message : FileError → String
  | unreadable path cause => "Failed to read '" ++ path ++ "': " ++ cause.message
  | malformed path fault => "Malformed page '" ++ path ++ "': " ++ fault.message

/-- Whether a file of this name is a page file. The ending alone is a name without an ending. -/
def isFileName (name : String) : Bool :=
  ".json".toList.isSuffixOf name.toList && decide (".json".length < name.length)

/-- A page file: the names on the way to it from the folder, and what it holds. -/
structure File where
  place : List String
  content : Except Files.Error Bytes

def File.before (a b : File) : Bool :=
  Files.placeBefore a.place b.place

/-- A folder that is still to be searched: the names on the way to it, and its entries. -/
structure Pending where
  place : List String
  entries : List (String × Files.Tree)

namespace Pending

def pageFiles (p : Pending) : List File :=
  p.entries.filterMap fun entry =>
    match entry.2 with
    | .file content =>
      if isFileName entry.1 then some ⟨p.place ++ [entry.1], content⟩ else none
    | .folder _ => none

def folders (p : Pending) : List Pending :=
  p.entries.filterMap fun entry =>
    match entry.2 with
    | .file _ => none
    | .folder entries => some ⟨p.place ++ [entry.1], entries⟩

/-- The number of folders that a search has before it. -/
def remaining : List Pending → Nat
  | [] => 0
  | p :: pending => 1 + Files.folderCountIn p.entries + remaining pending

theorem remaining_append (pending more : List Pending) :
    remaining (pending ++ more) = remaining pending + remaining more := by
  induction pending with
  | nil => simp [remaining]
  | cons p pending ih =>
    rw [List.cons_append, remaining, remaining, ih]
    omega

theorem remaining_reverse (pending : List Pending) :
    remaining pending.reverse = remaining pending := by
  induction pending with
  | nil => rfl
  | cons p pending ih =>
    rw [List.reverse_cons, remaining_append, ih, remaining, remaining, remaining]
    omega

/-- Each folder in a folder is searched once. -/
theorem remaining_folders (place : List String) (entries : List (String × Files.Tree)) :
    remaining (folders ⟨place, entries⟩) = Files.folderCountIn entries := by
  induction entries with
  | nil => rfl
  | cons entry entries ih =>
    obtain ⟨name, tree⟩ := entry
    cases tree with
    | file content => simpa [folders, Files.folderCountIn, Files.Tree.folderCount] using ih
    | folder inner =>
      simpa [folders, Files.folderCountIn, Files.Tree.folderCount, remaining] using ih

theorem remaining_step (p : Pending) (pending : List Pending) :
    remaining (p.folders.reverse ++ pending) < remaining (p :: pending) := by
  rw [remaining_append, remaining_reverse, remaining_folders, remaining]
  omega

end Pending

/-- The page files in some folders and in all folders below them, as a search comes upon them. One folder
is looked through at a time, and of those found in it the last one is searched next. -/
def search : List Pending → List File
  | [] => []
  | p :: pending => p.pageFiles ++ search (p.folders.reverse ++ pending)
termination_by pending => Pending.remaining pending
decreasing_by exact Pending.remaining_step p pending

def filesOf : Files.Tree → List File
  | .file _ => []
  | .folder entries => (search [⟨[], entries⟩]).mergeSort File.before

def ofFile (path : String) (content : Except Files.Error Bytes) : Except FileError Page := do
  let bytes ← content.mapError (.unreadable path)
  if (Text.ofUtf8? bytes).isNone then throw (.unreadable path .notText)
  (ofJson bytes).mapError (.malformed path)

/-- Page files with what each of them holds, under their paths. -/
def readAll (dir : String) (folder : Files.Tree) : List (String × Except FileError Page) :=
  (filesOf folder).map fun file =>
    let path := Files.below dir file.place
    (path, ofFile path file.content)

def found (read : List (String × Except FileError Page)) : List (String × Page) :=
  read.filterMap fun entry =>
    match entry.2 with
    | .ok page => some (entry.1, page)
    | .error _ => none

def notices (dir : String) (read : List (String × Except FileError Page)) : List Notice :=
  read.filterMap fun entry =>
    match entry.2 with
    | .ok _ => none
    | .error e => some ⟨"Pages", dir, "skipping page: " ++ e.message⟩

end Concordance.Page
