import Concordance.Intake

/-!
# Taking in pages one after the other

A page with an address that can be understood becomes one document, with the next id; any other page is
refused and changes nothing. A sequence of pages therefore adds the documents of the accepted ones, in
their order, and the id with which a page is answered is the place of its document among them.
-/
namespace Concordance.Proofs.Intake.Taking

open Concordance.Intake

/-- What is added for a page, if its address can be understood. -/
def entryOf? (page : Page) : Option Entry :=
  (Url.parse? page.url).map fun url => ⟨page.title, url.render, page.tokens⟩

/-- Takes in pages one after the other. Each is answered with the id of its document, or with the
reason for which it is refused. -/
def takePages (intake : Intake) : List Page → List (Except Error DocumentId) × Intake
  | [] => ([], intake)
  | page :: pages =>
    let (answer, next) := intake.addPage page
    let (answers, last) := takePages next pages
    (answer :: answers, last)

/-! ## One page -/

theorem addPage_of_some {page : Page} {entry : Entry} (h : entryOf? page = some entry)
    (intake : Intake) : intake.addPage page = (.ok intake.builder.size,
      { intake with builder := (intake.builder.add entry.title entry.url entry.tokens).2 }) := by
  obtain ⟨url, hurl, rfl⟩ := Option.map_eq_some_iff.mp h
  rw [addPage, hurl]
  rfl

theorem addPage_of_none {page : Page} (h : entryOf? page = none) (intake : Intake) :
    intake.addPage page = (.error (.invalidUrl page.url), intake) := by
  rw [addPage, Option.map_eq_none_iff.mp h]

theorem tokens_entryOf? {page : Page} {entry : Entry} (h : entryOf? page = some entry) :
    entry.tokens = page.tokens := by
  obtain ⟨url, -, rfl⟩ := Option.map_eq_some_iff.mp h
  rfl

/-! ## All pages -/

theorem takePages_of_some {page : Page} {entry : Entry} (h : entryOf? page = some entry)
    (intake : Intake) (pages : List Page) :
    let next := { intake with builder := (intake.builder.add entry.title entry.url entry.tokens).2 }
    takePages intake (page :: pages) =
      (.ok intake.builder.size :: (takePages next pages).1, (takePages next pages).2) := by
  rw [takePages, addPage_of_some h]

theorem takePages_of_none {page : Page} (h : entryOf? page = none) (intake : Intake)
    (pages : List Page) : takePages intake (page :: pages) =
      (.error (.invalidUrl page.url) :: (takePages intake pages).1, (takePages intake pages).2) := by
  rw [takePages, addPage_of_none h]

/-- The documents of the accepted pages are added, and nothing else. -/
theorem builder_takePages (intake : Intake) (pages : List Page) :
    (takePages intake pages).2.builder = (pages.filterMap entryOf?).foldl
      (fun b e => (b.add e.title e.url e.tokens).2) intake.builder := by
  induction pages generalizing intake with
  | nil => rfl
  | cons page pages ih =>
    cases he : entryOf? page with
    | none => rw [takePages_of_none he, List.filterMap_cons_none he, ih]
    | some entry => rw [takePages_of_some he, List.filterMap_cons_some he, ih, List.foldl_cons]

/-- The index of the pages that a new intake was given is that of the accepted ones. -/
theorem finish_takePages (pages : List Page) :
    (takePages empty pages).2.finish = Index.ofEntries (pages.filterMap entryOf?) := by
  rw [finish, builder_takePages]
  rfl

/-- An accepted page is answered with the place of its document. -/
theorem entry_of_answer {pages : List Page} {k : Nat} {page : Page} (hpage : pages[k]? = some page)
    {intake : Intake} {id : DocumentId} (h : (takePages intake pages).1[k]? = some (.ok id)) :
    ∃ (entry : Entry) (i : Nat), entryOf? page = some entry ∧ id = intake.builder.size + i ∧
      (pages.filterMap entryOf?)[i]? = some entry := by
  -- over the pages: a refused one counts for the answers but not for the documents
  induction pages generalizing intake k with
  | nil => cases hpage
  | cons first pages ih =>
    cases he : entryOf? first with
    | none =>
      rw [takePages_of_none he] at h
      cases k with
      | zero => cases h
      | succ k => rw [List.filterMap_cons_none he]; exact ih hpage h
    | some entry =>
      rw [takePages_of_some he] at h
      rw [List.filterMap_cons_some he]
      cases k with
      | zero =>
        cases hpage
        cases h
        exact ⟨entry, 0, he, rfl, rfl⟩
      | succ k =>
        obtain ⟨entry', i, hentry, rfl, hi⟩ := ih hpage h
        exact ⟨entry', i + 1, hentry, Nat.succ_add_eq_add_succ _ _, hi⟩

end Concordance.Proofs.Intake.Taking
