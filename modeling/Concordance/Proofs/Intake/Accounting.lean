import Concordance.Proofs.Index.Checking
import Concordance.Proofs.Index.Contents
import Concordance.Proofs.Intake.Taking

/-!
# Every page is accounted for

An intake is given single pages and whole folders, in any order. What it holds after any number of calls is
known from the calls alone: the documents of all accepted pages in the order of their arrival, and the
number of pages of folders that were refused. A call adds to both at their ends or, if it fails, to neither.
-/
namespace Concordance.Proofs.Intake.Accounting

open Concordance.Intake
open Index.Building Index.Checking Index.Contents Taking

inductive Call where
  | page (page : Page)
  | folder (dir : String) (folder : Except Files.Fault Files.Tree)

/-- The answer to a call and the intake after it. A page is answered with its id, a folder with the number
of pages that were taken in. -/
def serve (intake : Intake) : Call → Except Error Nat × Intake
  | .page page => intake.addPage page
  | .folder dir folder =>
    let outcome := intake.addFolder dir folder
    (outcome.added, outcome.intake)

def after (history : List Call) : Intake :=
  history.foldl (fun intake call => (serve intake call).2) .empty

def collected (dir : String) (folder : Files.Tree) : List Page :=
  (Page.found (Page.readAll dir folder)).map Prod.snd

def accepted (pages : List Page) : List Entry :=
  pages.filterMap entryOf?

def refused (pages : List Page) : List Page :=
  pages.filter fun page => (Url.parse? page.url).isNone

def Call.entries : Call → List Entry
  | .page p => accepted [p]
  | .folder _ (.error _) => []
  | .folder dir (.ok tree) => accepted (collected dir tree)

/-- The pages that a call skips. A page that comes alone is refused, but not skipped. -/
def Call.skips : Call → List Page
  | .page _ => []
  | .folder _ (.error _) => []
  | .folder dir (.ok tree) => refused (collected dir tree)

/-- The later index is the earlier one with one more document for each of some entries. -/
structure Extends (earlier later : Index) (entries : List Entry) : Prop where
  documents : later.documents.toList = earlier.documents.toList ++ entries.mapIdx fun i entry =>
    Document.ofTokens (earlier.size + i) entry.title entry.url entry.tokens
  terms : ∀ term, term ∈ later.postings ↔
    term ∈ earlier.postings ∨ ∃ entry ∈ entries, term ∈ entry.tokens
  postings : ∀ term, later.postings.getD term [] =
    earlier.postings.getD term [] ++ (holders entries term).map (earlier.size + ·)

/-! ## Accepted and refused pages -/

theorem accepted_cons_of_some {page : Page} {entry : Entry} (h : entryOf? page = some entry)
    (pages : List Page) : accepted (page :: pages) = entry :: accepted pages :=
  List.filterMap_cons_some h

theorem accepted_cons_of_none {page : Page} (h : entryOf? page = none) (pages : List Page) :
    accepted (page :: pages) = accepted pages :=
  List.filterMap_cons_none h

theorem isNone_parse?_of_some {page : Page} {entry : Entry} (h : entryOf? page = some entry) :
    (Url.parse? page.url).isNone = false := by
  obtain ⟨url, hurl, -⟩ := Option.map_eq_some_iff.mp h
  rw [hurl, Option.isNone_some]

theorem isNone_parse?_of_none {page : Page} (h : entryOf? page = none) :
    (Url.parse? page.url).isNone = true := by
  rw [Option.map_eq_none_iff.mp h, Option.isNone_none]

theorem refused_cons_of_some {page : Page} {entry : Entry} (h : entryOf? page = some entry)
    (pages : List Page) : refused (page :: pages) = refused pages := by
  rw [refused, List.filter_cons, isNone_parse?_of_some h]
  rfl

theorem refused_cons_of_none {page : Page} (h : entryOf? page = none) (pages : List Page) :
    refused (page :: pages) = page :: refused pages := by
  rw [refused, List.filter_cons, isNone_parse?_of_none h]
  rfl

/-- No page is both accepted and refused, or neither. -/
theorem length_accepted_add_refused (pages : List Page) :
    (accepted pages).length + (refused pages).length = pages.length := by
  induction pages with
  | nil => rfl
  | cons page pages ih =>
    cases h : entryOf? page with
    | none =>
      rw [accepted_cons_of_none h, refused_cons_of_none h, List.length_cons, List.length_cons, ← ih]
      omega
    | some entry =>
      rw [accepted_cons_of_some h, refused_cons_of_some h, List.length_cons, List.length_cons, ← ih]
      omega

/-! ## The intake that holds given entries -/

def holding (entries : List Entry) (skipped : Nat) : Intake where
  builder := entries.foldl (fun b e => (b.add e.title e.url e.tokens).2) .empty
  skipped

theorem finish_holding (entries : List Entry) (skipped : Nat) :
    (holding entries skipped).finish = Index.ofEntries entries :=
  rfl

theorem size_holding (entries : List Entry) (skipped : Nat) :
    (holding entries skipped).builder.size = entries.length :=
  (represents_entries entries).size_eq

theorem addPage_holding {page : Page} {entry : Entry} (h : entryOf? page = some entry)
    (entries : List Entry) (skipped : Nat) :
    (holding entries skipped).addPage page =
      (.ok entries.length, holding (entries ++ [entry]) skipped) := by
  rw [addPage_of_some h, size_holding, holding, holding, List.foldl_append]
  rfl

/-- A page of a folder is either added and counted as such, or skipped. -/
theorem foldl_addPage (dir : String) (found : List (String × Page)) {progress : Progress}
    {entries : List Entry} {skipped : Nat} (h : progress.intake = holding entries skipped) :
    (found.foldl (Progress.addPage dir) progress).intake = holding
        (entries ++ accepted (found.map Prod.snd)) (skipped + (refused (found.map Prod.snd)).length) ∧
      (found.foldl (Progress.addPage dir) progress).added =
        progress.added + (accepted (found.map Prod.snd)).length := by
  -- over the pages: the intake before each of them holds the entries of those before it
  induction found generalizing progress entries skipped with
  | nil => exact ⟨by simpa [accepted, refused] using h, rfl⟩
  | cons first found ih =>
    rw [List.map_cons, List.foldl_cons]
    cases hentry : entryOf? first.2 with
    | none =>
      have hrefused : (Progress.addPage dir progress first).intake = holding entries (skipped + 1) ∧
          (Progress.addPage dir progress first).added = progress.added := by
        rw [Progress.addPage, addPage_of_none hentry, h]
        exact ⟨rfl, rfl⟩
      obtain ⟨hintake, hadded⟩ := ih hrefused.1
      rw [accepted_cons_of_none hentry, refused_cons_of_none hentry, List.length_cons]
      refine ⟨?_, hadded.trans (by rw [hrefused.2])⟩
      rw [hintake, Nat.add_assoc, Nat.add_comm 1]
    | some entry =>
      have haccepted : (Progress.addPage dir progress first).intake =
            holding (entries ++ [entry]) skipped ∧
          (Progress.addPage dir progress first).added = progress.added + 1 := by
        rw [Progress.addPage, h, addPage_holding hentry]
        exact ⟨rfl, rfl⟩
      obtain ⟨hintake, hadded⟩ := ih haccepted.1
      rw [accepted_cons_of_some hentry, refused_cons_of_some hentry, List.length_cons]
      refine ⟨?_, ?_⟩
      · rw [hintake, List.append_assoc, List.singleton_append]
      · rw [hadded, haccepted.2, Nat.add_assoc, Nat.add_comm 1]

/-! ## Calls -/

theorem serve_page_of_none {page : Page} (h : Url.parse? page.url = none) (intake : Intake) :
    serve intake (.page page) = (.error (.invalidUrl page.url), intake) := by
  rw [serve, addPage_of_none (Option.map_eq_none_iff.mpr h)]

theorem serve_page_of_some {page : Page} {entry : Entry} (h : entryOf? page = some entry)
    (entries : List Entry) (skipped : Nat) : serve (holding entries skipped) (.page page) =
      (.ok entries.length, holding (entries ++ [entry]) skipped) := by
  rw [serve, addPage_holding h]

theorem serve_folder (dir : String) (folder : Files.Tree) (entries : List Entry) (skipped : Nat) :
    serve (holding entries skipped) (.folder dir (.ok folder)) =
      (.ok (accepted (collected dir folder)).length,
        holding (entries ++ accepted (collected dir folder))
          (skipped + (refused (collected dir folder)).length)) := by
  obtain ⟨hintake, hadded⟩ := @foldl_addPage dir (Page.found (Page.readAll dir folder))
    ⟨holding entries skipped, 0, Page.notices dir (Page.readAll dir folder)⟩ entries skipped rfl
  rw [serve, addFolder]
  dsimp only
  rw [hintake, hadded, Nat.zero_add]
  rfl

/-- A call adds its entries after those that are there, and the pages that it skips to their number. -/
theorem serve_holding (call : Call) (entries : List Entry) (skipped : Nat) :
    (serve (holding entries skipped) call).2 =
      holding (entries ++ call.entries) (skipped + call.skips.length) := by
  cases call with
  | page page =>
    cases h : entryOf? page with
    | none =>
      rw [serve_page_of_none (Option.map_eq_none_iff.mp h), Call.entries, accepted_cons_of_none h]
      simp [accepted, Call.skips]
    | some entry =>
      rw [serve_page_of_some h, Call.entries, accepted_cons_of_some h]
      rfl
  | folder dir folder =>
    cases folder with
    | error fault => simp [serve, addFolder, Call.entries, Call.skips]
    | ok folder => rw [serve_folder, Call.entries, Call.skips]

/-- A call that fails changes nothing. -/
theorem serve_of_error {intake : Intake} {call : Call} {e : Error} (h : (serve intake call).1 = .error e) :
    (serve intake call).2 = intake := by
  cases call with
  | page page =>
    cases hentry : entryOf? page with
    | none => rw [serve, addPage_of_none hentry]
    | some entry =>
      rw [serve, addPage_of_some hentry] at h
      cases h
  | folder dir folder =>
    cases folder with
    | error fault => rfl
    | ok folder => cases h

/-- What is held after some calls are the entries of all of them, in order. -/
theorem foldl_serve (calls : List Call) (entries : List Entry) (skipped : Nat) :
    calls.foldl (fun intake call => (serve intake call).2) (holding entries skipped) =
      holding (entries ++ calls.flatMap Call.entries)
        (skipped + (calls.flatMap Call.skips).length) := by
  induction calls generalizing entries skipped with
  | nil => simp
  | cons call calls ih =>
    rw [List.foldl_cons, serve_holding, ih, List.flatMap_cons, List.flatMap_cons, List.append_assoc,
      List.length_append, Nat.add_assoc]

theorem after_eq (history : List Call) : after history =
    holding (history.flatMap Call.entries) (history.flatMap Call.skips).length := by
  have h := foldl_serve history [] 0
  rwa [List.nil_append, Nat.zero_add] at h

/-! ## Indexes -/

theorem holders_append_entries (entries more : List Entry) (term : String) :
    holders (entries ++ more) term =
      holders entries term ++ (holders more term).map (entries.length + ·) := by
  rw [holders, List.findIdxs_append, Nat.zero_add]
  refine congrArg (holders entries term ++ ·) (List.findIdxs_start.trans ?_)
  simp only [holders, Nat.add_comm]

theorem extends_ofEntries (entries more : List Entry) :
    Extends (Index.ofEntries entries) (Index.ofEntries (entries ++ more)) more where
  documents := by
    rw [documents_ofEntries, documents_ofEntries, size_ofEntries, documentsOf, documentsOf,
      List.mapIdx_append]
    simp only [Nat.add_comm]
  terms term := by
    rw [mem_postings_ofEntries, mem_postings_ofEntries]
    simp only [List.mem_append, or_and_right, exists_or]
  postings term := by
    rw [getD_postings_ofEntries, getD_postings_ofEntries, size_ofEntries, holders_append_entries]

/-- Whatever an intake was called for before: a call that fails changes nothing. These are the pages with an
address that cannot be understood, and the folders that cannot be searched. Any other page becomes the next
document. The pages of a folder become as many documents, in the order in which they are collected, as the
answer says, and the others count as skipped. Calls never alter what is there, and the index passes its
checks after any of them. -/
theorem calls_accounted (history : List Call) :
    let intake := after history
    (∀ call e, (serve intake call).1 = .error e → (serve intake call).2 = intake) ∧
    (∀ page, Url.parse? page.url = none →
      serve intake (.page page) = (.error (.invalidUrl page.url), intake)) ∧
    (∀ page url, Url.parse? page.url = some url → ∃ next,
      serve intake (.page page) = (.ok intake.finish.size, next) ∧ next.skipped = intake.skipped ∧
        Extends intake.finish next.finish [⟨page.title, url.render, page.tokens⟩]) ∧
    (∀ dir fault, serve intake (.folder dir (.error fault)) =
      (.error (.file (.unreadable fault.path fault.cause)), intake)) ∧
    (∀ dir folder, ∃ next,
      let pages := (Page.found (Page.readAll dir folder)).map Prod.snd
      serve intake (.folder dir (.ok folder)) = (.ok (accepted pages).length, next) ∧
        Extends intake.finish next.finish (accepted pages) ∧
        next.skipped = intake.skipped + (refused pages).length ∧
        (accepted pages).length + (next.skipped - intake.skipped) = pages.length) ∧
    (∀ calls, Extends intake.finish (after (history ++ calls)).finish (calls.flatMap Call.entries) ∧
      (after (history ++ calls)).skipped = intake.skipped + (calls.flatMap Call.skips).length) ∧
    intake.finish.check = .ok () := by
  intro intake
  have hintake : intake = holding (history.flatMap Call.entries) (history.flatMap Call.skips).length :=
    after_eq history
  refine ⟨fun _ _ => serve_of_error, fun page h => serve_page_of_none h intake, fun page url h => ?_,
    fun dir fault => rfl, fun dir folder => ?_, fun calls => ?_, ?_⟩
  · have hentry : entryOf? page = some ⟨page.title, url.render, page.tokens⟩ := by rw [entryOf?, h]; rfl
    rw [hintake, serve_page_of_some hentry, finish_holding, size_ofEntries]
    exact ⟨_, rfl, rfl, extends_ofEntries _ _⟩
  · rw [hintake, serve_folder]
    refine ⟨_, rfl, extends_ofEntries _ _, rfl, ?_⟩
    rw [holding, holding, Nat.add_sub_cancel_left]
    exact length_accepted_add_refused _
  · rw [after_eq (history ++ calls), hintake, finish_holding, finish_holding, List.flatMap_append,
      List.flatMap_append, holding, holding, List.length_append]
    exact ⟨extends_ofEntries _ _, rfl⟩
  · rw [hintake, finish_holding]
    exact (check_eq_ok_iff _).mpr (sound_ofEntries _)

/-! ## A run -/

def pageAt (url : String) : Page := ⟨url, "grado", .text⟩

def bytesAt (url : String) : Bytes :=
  let rest := "\x22,\x22text\x22:\x22grado\x22,\x22type\x22:\x22text\x22\x7d"
  let text := "\x7b\x22url\x22:\x22" ++ url ++ rest
  text.toUTF8.toList

/-- A folder with a file that holds no page, and with a page without an address between two that have one. -/
def mixedFolder : Files.Tree :=
  .folder [("d.json", .file (.ok (bytesAt "http://c/"))), ("a.json", .file (.ok [])),
    ("b.json", .file (.ok (bytesAt "http://b/"))), ("c.json", .file (.ok (bytesAt "c")))]

theorem collected_mixedFolder : collected "crawl" mixedFolder =
    [pageAt "http://b/", pageAt "c", pageAt "http://c/"] := by
  have hname : ∀ name ∈ ["a.json", "b.json", "c.json", "d.json"], Page.isFileName name = true := by decide
  have hbefore : ∀ a ∈ ["a.json", "b.json", "c.json", "d.json"],
      ∀ b ∈ ["a.json", "b.json", "c.json", "d.json"],
        Files.placeBefore [a] [b] = decide (a ≤ b) := by decide
  have hfiles : Page.filesOf mixedFolder =
      [⟨["a.json"], .ok []⟩, ⟨["b.json"], .ok (bytesAt "http://b/")⟩,
        ⟨["c.json"], .ok (bytesAt "c")⟩, ⟨["d.json"], .ok (bytesAt "http://c/")⟩] := by
    simp [mixedFolder, Page.filesOf, Page.search, Page.Pending.pageFiles, Page.Pending.folders, hname,
      List.mergeSort, Page.File.before, hbefore]
  rw [collected, Page.readAll, hfiles]
  decide +kernel

def mixedCalls : List Call :=
  [.page (pageAt "http://a/"), .page (pageAt "b"), .folder "crawl" (.ok mixedFolder),
    .folder "lost" (.error ⟨"lost", .notFound⟩), .page (pageAt "http://d/")]

theorem entries_mixedCalls : (mixedCalls.flatMap Call.entries).map Entry.url =
    ["http://a/", "http://b/", "http://c/", "http://d/"] ∧
      mixedCalls.flatMap Call.skips = [pageAt "c"] := by
  simp only [mixedCalls, List.flatMap_cons, List.flatMap_nil, Call.entries, Call.skips,
    collected_mixedFolder]
  decide +kernel

theorem numbered_documentsOf (entries : List Entry) :
    ((documentsOf entries).map fun d => (d.id, d.url)) = (entries.map Entry.url).mapIdx Prod.mk := by
  apply List.ext_getElem?
  intro i
  rw [List.getElem?_map, getElem?_documentsOf, List.getElem?_mapIdx, List.getElem?_map]
  cases entries[i]? <;> rfl

/-- Documents are numbered without gaps over pages that are refused, of which only the one in a folder is
skipped. -/
theorem calls_accounted_mixedCalls :
    let intake := after mixedCalls
    (intake.finish.documents.toList.map fun d => (d.id, d.url)) =
        [(0, "http://a/"), (1, "http://b/"), (2, "http://c/"), (3, "http://d/")] ∧
      intake.skipped = 1 ∧ serve intake (.page (pageAt "b")) = (.error (.invalidUrl "b"), intake) ∧
      intake.finish.check = .ok () := by
  intro intake
  obtain ⟨hurls, hskips⟩ := entries_mixedCalls
  have hb : Url.parse? (pageAt "b").url = none := by rfl
  obtain ⟨-, hrefused, -, -, -, -, hcheck⟩ := calls_accounted mixedCalls
  obtain ⟨-, -, -, -, -, hcalls, -⟩ := calls_accounted []
  obtain ⟨hextends, hskipped⟩ := hcalls mixedCalls
  refine ⟨?_, ?_, hrefused _ hb, hcheck⟩
  · have hdocuments : intake.finish.documents.toList = documentsOf (mixedCalls.flatMap Call.entries) := by
      have hstart : (after []).finish.documents.toList = [] ∧ (after []).finish.size = 0 := ⟨rfl, rfl⟩
      have happended := hextends.documents
      rw [hstart.1, hstart.2, List.nil_append, List.nil_append] at happended
      simpa only [documentsOf, Nat.zero_add] using happended
    rw [hdocuments, numbered_documentsOf, hurls]
    rfl
  · rw [hskips] at hskipped
    exact hskipped

end Concordance.Proofs.Intake.Accounting
