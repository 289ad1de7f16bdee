import Concordance.Index.Builder
import Concordance.Index.Stats
import Concordance.Page.Folder
import Concordance.Snapshot.File
import Concordance.Url.Parse

/-!
Taking in crawled pages.

A page is indexed under the address it names, in the form that addresses are compared in; a page with an
address that cannot be understood is not indexed. From a folder every other page is taken in all the same.
-/
namespace Concordance

/-- An index in the making, and the number of pages of folders that were not indexed. -/
structure Intake where
  builder : Index.Builder
  skipped : Nat

namespace Intake

inductive Error where
  | file (cause : Page.FileError)
  | invalidUrl (url : String)
  | snapshot (cause : Snapshot.FileError)

def Error.message : Error → String
  | file cause => cause.message
  | invalidUrl url => "Invalid page URL '" ++ url ++ "'"
  | snapshot cause => "Index error: " ++ cause.message

def empty : Intake := ⟨.empty, 0⟩

/-- Takes in a page, and answers the id of its document. -/
def addPage (intake : Intake) (page : Page) : Except Error DocumentId × Intake :=
  match Url.parse? page.url with
  | none => (.error (.invalidUrl page.url), intake)
  | some url =>
    let (id, builder) := intake.builder.add page.title url.render page.tokens
    (.ok id, { intake with builder })

/-- How far a folder is taken in: the intake so far, the number of its pages in it, and the reports on
everything else. -/
structure Progress where
  intake : Intake
  added : Nat
  notices : List Notice

def Progress.addPage (dir : String) (progress : Progress) (found : String × Page) : Progress :=
  match progress.intake.addPage found.2 with
  | (.ok _, intake) => { progress with intake, added := progress.added + 1 }
  | (.error e, intake) =>
    { progress with
      intake := { intake with skipped := intake.skipped + 1 }
      notices := progress.notices ++ [⟨"Indexer", dir, found.1 ++ ": " ++ e.message⟩] }

/-- What became of a folder: the number of pages taken in, or why none was, with the intake after it and
the reports. -/
structure Outcome where
  added : Except Error Nat
  intake : Intake
  notices : List Notice

def addFolder (intake : Intake) (dir : String) (folder : Except Files.Fault Files.Tree) : Outcome :=
  match folder with
  | .error fault => ⟨.error (.file (.unreadable fault.path fault.cause)), intake, []⟩
  | .ok folder =>
    let read := Page.readAll dir folder
    let progress := (Page.found read).foldl (Progress.addPage dir) ⟨intake, 0, Page.notices dir read⟩
    ⟨.ok progress.added, progress.intake, progress.notices⟩

def finish (intake : Intake) : Index :=
  intake.builder.build

structure Run where
  result : Except Error Index.Stats
  notices : List Notice

def run {m : Type → Type} [Monad m] (files : Files.Access m) (dir output : String) : m Run := do
  let outcome := empty.addFolder dir (← files.openFolder dir)
  match outcome.added with
  | .error e => return ⟨.error e, outcome.notices⟩
  | .ok _ =>
    let index := outcome.intake.finish
    match ← Snapshot.save files index output with
    | .error e => return ⟨.error (.snapshot e), outcome.notices⟩
    | .ok () => return ⟨.ok index.stats, outcome.notices⟩

end Intake

end Concordance
