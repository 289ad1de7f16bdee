import Concordance.Html.Extract
import Concordance.Proofs.Html.Places
import Concordance.Proofs.Text.Words

/-!
# Which texts of a document are indexed

The recursions that take the text from a document are searches, and each is told here by places: the page
block is the first of its kind in document order, its pieces are the content elements with no other one
between them and the block, and a piece says the texts below it with no script or style between. So each
text of the block is taken once at most, in document order, and nothing outside the block has a part in it.
-/
namespace Concordance.Proofs.Html.Extraction

open Concordance.Html Concordance.Text Places Text.Words

def IsElementAt (names : List String) (document : List Node) (place : Place) : Prop :=
  ∃ name attributes children,
    at? document place = some (.element name attributes children) ∧ name ∈ names

def IsTextAt (document : List Node) (place : Place) : Prop :=
  ∃ content, at? document place = some (.text content)

def contentAt (document : List Node) (place : Place) : String :=
  match at? document place with
  | some (.text content) => content
  | _ => ""

/-- Whether a page block is at a place: a div that has "page" as a whole class name, that is as a maximal
run of characters other than blanks. -/
def IsBlockAt (document : List Node) (place : Place) : Prop :=
  ∃ attributes children, at? document place = some (.element "div" attributes children) ∧
    ∃ a ∈ attributes, a.name = "class" ∧ IsRun a.value.toList "page".toList

/-- A content element below a page block, with no other one between. -/
structure IsPiece (document : List Node) (block place : Place) : Prop where
  below : Below block place
  content : IsElementAt contentNames document place
  outermost : ∀ other, Below block other → Below other place →
    ¬ IsElementAt contentNames document other

/-- A text below a piece, with no script or style between. -/
structure IsSpoken (document : List Node) (piece place : Place) : Prop where
  below : Below piece place
  text : IsTextAt document place
  heard : ∀ other, Below piece other → Below other place → ¬ IsElementAt silentNames document other

/-- The texts of each piece put together, and the pieces with spaces between them. -/
def told (document : List Node) (pieces : List Place) (texts : Place → List Place) : String :=
  String.intercalate " " (pieces.map fun piece => String.join ((texts piece).map (contentAt document)))

/-! ## The recursions as searches -/

def isText : Node → Bool
  | .text _ => true
  | .element _ _ _ => false

def textOf : Node → String
  | .text content => content
  | .element _ _ _ => ""

def isAmong (names : List String) : Node → Bool
  | .text _ => false
  | .element name _ _ => names.contains name

@[simp]
theorem isAmong_element (names : List String) (name : String) (attributes : List Attribute)
    (children : List Node) : isAmong names (.element name attributes children) = names.contains name :=
  rfl

@[simp]
theorem isText_element (name : String) (attributes : List Attribute) (children : List Node) :
    isText (.element name attributes children) = false :=
  rfl

theorem spokenBy_eq (nodes : List Node) : spokenBy nodes =
    String.join ((found (fun n => !isAmong silentNames n) isText nodes).map textOf) := by
  induction nodes using nodes_induction with
  | nil => rfl
  | text content nodes ih =>
    rw [found_text, List.map_append, String.join_append, ← ih, spokenBy]
    rfl
  | element name attributes children nodes ihc ih =>
    rw [found_element, List.map_append, String.join_append, ← ih, spokenBy, Node.spoken]
    congr 1
    by_cases hname : name ∈ silentNames
    · simp [hname]
    · simp [hname, ihc]

theorem piecesOf_eq (nodes : List Node) : piecesOf nodes =
    (found (fun n => !isAmong contentNames n) (isAmong contentNames) nodes).map
      fun n => spokenBy n.children := by
  induction nodes using nodes_induction with
  | nil => rfl
  | text content nodes ih =>
    rw [found_text, List.map_append, ← ih, piecesOf]
    rfl
  | element name attributes children nodes ihc ih =>
    rw [found_element, List.map_append, ← ih, piecesOf, Node.pieces]
    congr 1
    by_cases hname : name ∈ contentNames
    · simp [hname, Node.children]
    · simp [hname, ihc]

theorem findIn?_eq (p : Node → Bool) (nodes : List Node) :
    findIn? p nodes = (found (fun _ => true) p nodes).head? := by
  induction nodes using nodes_induction with
  | nil => rfl
  | text content nodes ih =>
    rw [found_text, findIn?, Node.find?, ih]
    by_cases hp : p (.text content) = true
    · simp [hp]
    · simp [hp]
  | element name attributes children nodes ihc ih =>
    rw [found_element, findIn?, Node.find?, ih, ihc]
    by_cases hp : p (.element name attributes children) = true
    · simp [hp]
    · cases hfound : found (fun _ => true) p children with
      | nil => simp [hp]
      | cons n rest => simp [hp]

/-! ## What the searches look for -/

theorem isElementAt_iff {names : List String} {document : List Node} {place : Place} :
    IsElementAt names document place ↔
      ∃ n, at? document place = some n ∧ isAmong names n = true := by
  constructor
  · rintro ⟨name, attributes, children, h, hname⟩
    exact ⟨_, h, List.contains_iff_mem.mpr hname⟩
  · rintro ⟨n, h, hn⟩
    cases n with
    | text content => cases hn
    | element name attributes children =>
      exact ⟨name, attributes, children, h, List.contains_iff_mem.mp hn⟩

theorem isTextAt_iff {document : List Node} {place : Place} :
    IsTextAt document place ↔ ∃ n, at? document place = some n ∧ isText n = true := by
  constructor
  · rintro ⟨content, h⟩
    exact ⟨_, h, rfl⟩
  · rintro ⟨n, h, hn⟩
    cases n with
    | text content => exact ⟨content, h⟩
    | element name attributes children => cases hn

/-- No element with one of some names stands between, if a search that passes by them has come through. -/
theorem not_isElementAt_iff {names : List String} {document : List Node} {place : Place} :
    ¬ IsElementAt names document place ↔
      ∀ n, at? document place = some n → (!isAmong names n) = true := by
  simp only [isElementAt_iff, not_exists, not_and, Bool.not_eq_true, Bool.not_eq_true']

theorem contains_words_iff (text word : String) :
    (words text).contains word = true ↔ IsRun text.toList word.toList := by
  rw [List.contains_iff_mem, ← mem_wordsOf_iff, words, List.mem_map]
  constructor
  · rintro ⟨run, hrun, rfl⟩
    rwa [String.toList_ofList]
  · intro h
    exact ⟨_, h, String.ofList_toList⟩

theorem isBlockAt_iff {document : List Node} {place : Place} :
    IsBlockAt document place ↔ ∃ n, at? document place = some n ∧ n.isPageBlock = true := by
  constructor
  · rintro ⟨attributes, children, h, a, ha, hname, hrun⟩
    refine ⟨_, h, Bool.and_eq_true_iff.mpr ⟨by simp [Node.isNamed], ?_⟩⟩
    refine List.any_eq_true.mpr ⟨a, ha, Bool.and_eq_true_iff.mpr ⟨decide_eq_true hname, ?_⟩⟩
    exact (contains_words_iff a.value "page").mpr hrun
  · rintro ⟨n, h, hn⟩
    obtain ⟨hnamed, hclass⟩ := Bool.and_eq_true_iff.mp hn
    cases n with
    | text content => cases hnamed
    | element name attributes children =>
      obtain rfl : name = "div" := of_decide_eq_true hnamed
      obtain ⟨a, ha, hpage⟩ := List.any_eq_true.mp hclass
      obtain ⟨hname, hword⟩ := Bool.and_eq_true_iff.mp hpage
      exact ⟨attributes, children, h, a, ha, of_decide_eq_true hname,
        (contains_words_iff a.value "page").mp hword⟩

def piecesBelow (document : List Node) (block : Place) : List Place :=
  placesBelow (fun n => !isAmong contentNames n) (isAmong contentNames) document block

def textsBelow (document : List Node) (piece : Place) : List Place :=
  placesBelow (fun n => !isAmong silentNames n) isText document piece

theorem lists_piecesBelow {document : List Node} {block : Place} {n : Node}
    (h : at? document block = some n) : Lists (IsPiece document block) (piecesBelow document block) := by
  have hk : Lists (Kept (fun n => !isAmong contentNames n) (isAmong contentNames) document block)
      (piecesBelow document block) := lists_placesBelow h
  refine ⟨hk.ordered, fun place => (hk.mem_iff place).trans ⟨fun hp => ?_, fun hp => ?_⟩⟩
  · exact ⟨hp.below, isElementAt_iff.mpr hp.kept, fun other hb hb' =>
      not_isElementAt_iff.mpr fun n hn => hp.entered other n hb hb' hn⟩
  · exact ⟨hp.below, isElementAt_iff.mp hp.content, fun other n hb hb' hn =>
      not_isElementAt_iff.mp (hp.outermost other hb hb') n hn⟩

theorem lists_textsBelow {document : List Node} {piece : Place} {n : Node}
    (h : at? document piece = some n) : Lists (IsSpoken document piece) (textsBelow document piece) := by
  have hk : Lists (Kept (fun n => !isAmong silentNames n) isText document piece)
      (textsBelow document piece) := lists_placesBelow h
  refine ⟨hk.ordered, fun place => (hk.mem_iff place).trans ⟨fun hp => ?_, fun hp => ?_⟩⟩
  · exact ⟨hp.below, isTextAt_iff.mpr hp.kept, fun other hb hb' =>
      not_isElementAt_iff.mpr fun n hn => hp.entered other n hb hb' hn⟩
  · exact ⟨hp.below, isTextAt_iff.mp hp.text, fun other n hb hb' hn =>
      not_isElementAt_iff.mp (hp.heard other hb hb') n hn⟩

/-! ## The text by places -/

theorem contentAt_eq {document : List Node} {place : Place} {n : Node} (h : at? document place = some n) :
    contentAt document place = textOf n := by
  rw [contentAt, h]
  cases n <;> rfl

theorem join_textsBelow {document : List Node} {piece : Place} {n : Node}
    (h : at? document piece = some n) :
    String.join ((textsBelow document piece).map (contentAt document)) = spokenBy n.children := by
  rw [spokenBy_eq, textsBelow, map_placesBelow h fun place m hm => contentAt_eq hm]

theorem told_below {document : List Node} {block : Place} {n : Node} (h : at? document block = some n) :
    told document (piecesBelow document block) (textsBelow document) =
      String.intercalate " " (piecesOf n.children) := by
  rw [told, piecesOf_eq, piecesBelow, map_placesBelow h fun place m hm => join_textsBelow hm]

theorem isFirst_of_head?_blocks {document : List Node} {f : Place × Node}
    (h : (reached (fun _ => true) Node.isPageBlock document).head? = some f) :
    IsFirst (IsBlockAt document) f.1 := by
  have hblock : IsBlockAt document =
      fun place => ∃ n, at? document place = some n ∧ n.isPageBlock = true :=
    funext fun _ => propext isBlockAt_iff
  rw [hblock]
  exact isFirst_of_head? h

/-- If there is a page block, one is the first, and it is what the search of the document comes upon. -/
theorem exists_first_block {document : List Node} {place : Place} (h : IsBlockAt document place) :
    ∃ home block, IsFirst (IsBlockAt document) home ∧ at? document home = some block ∧
      findIn? Node.isPageBlock document = some block := by
  obtain ⟨n, hn, hp⟩ := isBlockAt_iff.mp h
  have hmem : (place, n) ∈ reached (fun _ => true) Node.isPageBlock document :=
    mem_reached_iff.mpr ⟨hn, hp, fun _ _ _ _ => rfl⟩
  cases hhead : (reached (fun _ => true) Node.isPageBlock document).head? with
  | none =>
    rw [List.head?_eq_none_iff.mp hhead] at hmem
    cases hmem
  | some f =>
    have hf := mem_reached_iff.mp (List.mem_of_mem_head? hhead)
    refine ⟨f.1, f.2, isFirst_of_head?_blocks hhead, hf.lies, ?_⟩
    rw [findIn?_eq, found, List.head?_map, hhead, Option.map_some]

theorem findIn?_of_isFirst {document : List Node} {home : Place}
    (h : IsFirst (IsBlockAt document) home) :
    ∃ block, at? document home = some block ∧ findIn? Node.isPageBlock document = some block := by
  obtain ⟨other, block, hfirst, hblock, hfind⟩ := exists_first_block h.holds
  exact ⟨block, hfirst.eq h ▸ hblock, hfind⟩

theorem pageText_of_forall_not {document : List Node} (h : ∀ place, ¬ IsBlockAt document place) :
    pageText document = "" := by
  have hnone : findIn? Node.isPageBlock document = none := by
    rw [findIn?_eq, List.head?_eq_none_iff, found, List.map_eq_nil_iff,
      List.eq_nil_iff_forall_not_mem]
    intro f hf
    have hk := mem_reached_iff.mp hf
    exact h f.1 (isBlockAt_iff.mpr ⟨f.2, hk.lies, hk.kept⟩)
  rw [pageText, hnone]

theorem pageText_of_find {document : List Node} {block : Node}
    (h : findIn? Node.isPageBlock document = some block) :
    pageText document = String.intercalate " " (piecesOf block.children) := by
  rw [pageText, h]

theorem findIn?_block {document : List Node} {block : Node}
    (h : findIn? Node.isPageBlock document = some block) :
    findIn? Node.isPageBlock [block] = some block := by
  have hp : block.isPageBlock = true := by
    rw [findIn?_eq] at h
    obtain ⟨f, hf, rfl⟩ := List.mem_map.mp (List.mem_of_mem_head? h)
    exact (mem_reached_iff.mp hf).kept
  cases block with
  | text content => cases hp
  | element name attributes children => rw [findIn?, Node.find?, if_pos hp]

/-- Whatever lists say where the pieces of the first page block and their texts are, put together they
are the text of the document. -/
theorem pageText_eq_told {document : List Node} {home : Place} {pieces : List Place}
    {texts : Place → List Place} (hhome : IsFirst (IsBlockAt document) home)
    (hpieces : Lists (IsPiece document home) pieces)
    (htexts : ∀ piece ∈ pieces, Lists (IsSpoken document piece) (texts piece)) :
    pageText document = told document pieces texts := by
  obtain ⟨block, hblock, hfind⟩ := findIn?_of_isFirst hhome
  rw [pageText_of_find hfind, ← told_below hblock, told, told,
    (lists_piecesBelow hblock).eq hpieces]
  refine congrArg _ (List.map_congr_left fun piece hpiece => ?_)
  obtain ⟨name, attributes, children, h, -⟩ := ((hpieces.mem_iff piece).mp hpiece).content
  rw [(lists_textsBelow h).eq (htexts piece hpiece)]

theorem told_congr {document other : List Node} {pieces : List Place} {texts : Place → List Place}
    (h : ∀ place ∈ pieces.flatMap texts, contentAt document place = contentAt other place) :
    told document pieces texts = told other pieces texts := by
  refine congrArg _ (List.map_congr_left fun piece hpiece => congrArg _ ?_)
  exact List.map_congr_left fun place hplace =>
    h place (List.mem_flatMap.mpr ⟨piece, hpiece, hplace⟩)

/-- The pieces of a block can be listed, and so can the texts of each piece. -/
theorem exists_lists {document : List Node} {home : Place} {block : Node}
    (h : at? document home = some block) : ∃ (pieces : List Place) (texts : Place → List Place),
      Lists (IsPiece document home) pieces ∧
      ∀ piece ∈ pieces, Lists (IsSpoken document piece) (texts piece) := by
  have hpieces := lists_piecesBelow h
  refine ⟨_, textsBelow document, hpieces, fun piece hpiece => ?_⟩
  obtain ⟨name, attributes, children, hat, -⟩ := ((hpieces.mem_iff piece).mp hpiece).content
  exact lists_textsBelow hat

/-- The texts of the pieces, one piece after the other, are in document order. -/
theorem lists_flatMap {document : List Node} {home : Place} {pieces : List Place}
    {texts : Place → List Place} (hpieces : Lists (IsPiece document home) pieces)
    (htexts : ∀ piece ∈ pieces, Lists (IsSpoken document piece) (texts piece)) :
    Lists (fun place => ∃ piece, IsPiece document home piece ∧ IsSpoken document piece place)
      (pieces.flatMap texts) where
  ordered := by
    refine List.pairwise_flatMap.mpr ⟨fun piece hpiece => (htexts piece hpiece).ordered, ?_⟩
    refine hpieces.ordered.imp_of_mem fun {piece other} hpiece hother hbefore => ?_
    intro place hplace more hmore
    -- no piece is below another, so that all below the earlier one comes first
    have hnot : ¬ Below piece other := fun hb =>
      ((hpieces.mem_iff other).mp hother).outermost piece ((hpieces.mem_iff piece).mp hpiece).below hb
        ((hpieces.mem_iff piece).mp hpiece).content
    obtain ⟨i, rest, rfl⟩ := (((htexts piece hpiece).mem_iff place).mp hplace).below
    obtain ⟨j, last, rfl⟩ := (((htexts other hother).mem_iff more).mp hmore).below
    exact before_append hbefore hnot _ _
  mem_iff place := by
    rw [List.mem_flatMap]
    refine exists_congr fun piece => ?_
    rw [← hpieces.mem_iff]
    exact and_congr_right fun hpiece => (htexts piece hpiece).mem_iff place

/-- Without a page block a document has no text. Otherwise one block is the first, and the text of the
document is made of its pieces with spaces between them, each the texts below it that no script and no
style keeps out. All these lists are in document order, and so is the list of all texts taken: none is
taken twice. Nothing outside the block has a part in it. -/
theorem pageText_by_places (document : List Node) :
    ((∀ place, ¬ IsBlockAt document place) → pageText document = "") ∧
    ((∃ place, IsBlockAt document place) → ∃ home, IsFirst (IsBlockAt document) home) ∧
    ∀ home, IsFirst (IsBlockAt document) home →
      ∃ (pieces : List Place) (texts : Place → List Place),
        Lists (IsPiece document home) pieces ∧
        (∀ piece ∈ pieces, Lists (IsSpoken document piece) (texts piece)) ∧
        pageText document = told document pieces texts ∧
        Lists (fun place => ∃ piece, IsPiece document home piece ∧ IsSpoken document piece place)
          (pieces.flatMap texts) ∧
        ∀ block, at? document home = some block → pageText [block] = pageText document := by
  refine ⟨pageText_of_forall_not, fun ⟨place, h⟩ => ?_, fun home h => ?_⟩
  · obtain ⟨home, block, hfirst, -, -⟩ := exists_first_block h
    exact ⟨home, hfirst⟩
  · obtain ⟨block, hblock, hfind⟩ := findIn?_of_isFirst h
    obtain ⟨pieces, texts, hpieces, htexts⟩ := exists_lists hblock
    refine ⟨pieces, texts, hpieces, htexts, pageText_eq_told h hpieces htexts,
      lists_flatMap hpieces htexts, fun other hother => ?_⟩
    obtain rfl := Option.some.inj (hblock.symm.trans hother)
    rw [pageText_of_find hfind, pageText_of_find (findIn?_block hfind)]

/-- A block after one of another class: a heading with an emphasis and a script in it, a link in an
element that is none of the content elements, and a paragraph after the block. -/
def mixedPage : List Node :=
  [.element "div" [⟨"class", "pages"⟩] [.element "p" [] [.text "a"]],
    .element "div" [⟨"id", "page"⟩, ⟨"class", "my\u2003page"⟩]
      [.element "h1" [] [.text "b", .element "b" [] [.text "c"], .element "script" [] [.text "d"]],
        .text "e", .element "span" [] [.element "a" [] [.text "f"]]],
    .element "p" [] [.text "g"]]

theorem pageText_mixedPage :
    ((∀ place, ¬ IsBlockAt [] place) ∧ pageText [] = "") ∧
    (IsBlockAt mixedPage [1] ∧ ∃ home, IsFirst (IsBlockAt mixedPage) home) ∧
    IsFirst (IsBlockAt mixedPage) [1] ∧
    ∃ (pieces : List Place) (texts : Place → List Place),
      Lists (IsPiece mixedPage [1]) pieces ∧
      (∀ piece ∈ pieces, Lists (IsSpoken mixedPage piece) (texts piece)) ∧
      pieces = [[1, 0], [1, 2, 0]] ∧ pieces.flatMap texts = [[1, 0, 0], [1, 0, 1, 0], [1, 2, 0, 0]] ∧
      told mixedPage pieces texts = "bc f" := by
  have hnone : ∀ place, ¬ IsBlockAt [] place := by
    rintro place ⟨attributes, children, h, -⟩
    cases place <;> cases h
  have hhead : (reached (fun _ => true) Node.isPageBlock mixedPage).head?.map Prod.fst = some [1] := by
    decide
  obtain ⟨f, hf, hhome⟩ := Option.map_eq_some_iff.mp hhead
  have hfirst : IsFirst (IsBlockAt mixedPage) [1] := hhome ▸ isFirst_of_head?_blocks hf
  obtain ⟨hempty, hexists, hplaces⟩ := pageText_by_places mixedPage
  obtain ⟨pieces, texts, hpieces, htexts, htext, -, -⟩ := hplaces [1] hfirst
  have hpieces' : pieces = [[1, 0], [1, 2, 0]] := (lists_piecesBelow rfl).eq hpieces |>.symm
  refine ⟨⟨hnone, (pageText_by_places []).1 hnone⟩, ⟨hfirst.holds, hexists ⟨_, hfirst.holds⟩⟩, hfirst,
    pieces, texts, hpieces, htexts, hpieces', ?_, ?_⟩
  · subst hpieces'
    rw [List.flatMap_cons, List.flatMap_cons, List.flatMap_nil,
      ← (lists_textsBelow rfl).eq (htexts [1, 0] (by decide)),
      ← (lists_textsBelow rfl).eq (htexts [1, 2, 0] (by decide))]
    rfl
  · rw [← htext]
    decide

end Concordance.Proofs.Html.Extraction
