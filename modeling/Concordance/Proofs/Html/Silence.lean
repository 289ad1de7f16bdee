import Mathlib.Algebra.Order.BigOperators.Group.List
import Mathlib.Algebra.Order.Group.Nat
import Concordance.Html.Parse
import Concordance.Proofs.Html.Extraction

/-!
# Which texts make a difference

A text of a document contributes if the indexed text would be another one had it another content. Those
that do are the texts that the pieces of the first page block speak. A script or style keeps the texts
below it out of the elements above it, but not out of a content element that is itself below it, as a link
in the style sheet of a drawing is.
-/
namespace Concordance.Proofs.Html.Silence

open Concordance.Html Places Extraction

/-- The document with another content in the text at a place. -/
def reword (new : String) : Place → List Node → List Node
  | [], nodes => nodes
  | i :: place, nodes => nodes.modify i fun n =>
    match n with
    | .text content => if place = [] then .text new else .text content
    | .element name attributes children => .element name attributes (reword new place children)

/-- Whether the indexed text of a document would be another one for some content of a text. -/
def Contributes (document : List Node) (place : Place) : Prop :=
  ∃ new, pageText (reword new place document) ≠ pageText document

/-! ## Another content -/

def bare : Node → Node
  | .text content => .text content
  | .element name attributes _ => .element name attributes []

def retold (new : String) : Node → Node
  | .text _ => .text new
  | .element name attributes children => .element name attributes children

/-- Each node keeps its kind, and each text but the one its content. -/
theorem at?_reword (new : String) (place : Place) (document : List Node) (other : Place) :
    (at? (reword new place document) other).map bare =
      (at? document other).map fun n => if other = place then retold new (bare n) else bare n := by
  induction other generalizing place document with
  | nil => rfl
  | cons i rest ih =>
    cases place with
    | nil => rfl
    | cons j place =>
      rw [reword, at?, at?, List.getElem?_modify]
      by_cases hij : j = i
      · subst hij
        cases document[j]? with
        | none => rfl
        | some n =>
          cases n with
          | text content =>
            by_cases hplace : place = []
            · cases rest <;> simp [hplace, nodeAt?, bare, retold, Node.children]
            · cases rest <;> simp [hplace, Ne.symm hplace, nodeAt?, bare, Node.children]
          | element name attributes children =>
            cases rest with
            | nil => simp [nodeAt?, bare, retold]
            | cons k rest =>
              have hchildren := ih place children
              simpa [nodeAt?_cons, Node.children] using hchildren
      · have hne : i :: rest ≠ j :: place := fun h => hij (List.cons.inj h).1.symm
        simp [hij, hne]

variable {document : List Node} {place : Place}

/-- A search for nodes of a kind does not see the content of the texts. -/
theorem exists_at?_reword_iff {P : Node → Bool} (hbare : ∀ n, P (bare n) = P n)
    (hretold : ∀ new n, P (retold new n) = P n) (new : String) (other : Place) :
    (∃ n, at? (reword new place document) other = some n ∧ P n = true) ↔
      ∃ n, at? document other = some n ∧ P n = true := by
  have hany : ∀ o : Option Node, o.any P = (o.map bare).any P := by
    intro o
    cases o with
    | none => rfl
    | some n => exact (hbare n).symm
  rw [← Option.any_eq_true, ← Option.any_eq_true, hany, hany, at?_reword]
  cases at? document other with
  | none => rfl
  | some n => by_cases h : other = place <;> simp [h, hbare, hretold]

theorem isElementAt_reword_iff {names : List String} (new : String) (other : Place) :
    IsElementAt names (reword new place document) other ↔ IsElementAt names document other := by
  rw [isElementAt_iff, isElementAt_iff]
  exact exists_at?_reword_iff (fun n => by cases n <;> rfl) (fun _ n => by cases n <;> rfl) new other

theorem isTextAt_reword_iff (new : String) (other : Place) :
    IsTextAt (reword new place document) other ↔ IsTextAt document other := by
  rw [isTextAt_iff, isTextAt_iff]
  exact exists_at?_reword_iff (fun n => by cases n <;> rfl) (fun _ n => by cases n <;> rfl) new other

theorem isBlockAt_reword_iff (new : String) (other : Place) :
    IsBlockAt (reword new place document) other ↔ IsBlockAt document other := by
  rw [isBlockAt_iff, isBlockAt_iff]
  exact exists_at?_reword_iff (fun n => by cases n <;> rfl) (fun _ n => by cases n <;> rfl) new other

theorem isPiece_reword_iff (new : String) (home piece : Place) :
    IsPiece (reword new place document) home piece ↔ IsPiece document home piece := by
  constructor
  · rintro ⟨hb, hc, ho⟩
    exact ⟨hb, (isElementAt_reword_iff new piece).mp hc, fun other h h' hother =>
      ho other h h' ((isElementAt_reword_iff new other).mpr hother)⟩
  · rintro ⟨hb, hc, ho⟩
    exact ⟨hb, (isElementAt_reword_iff new piece).mpr hc, fun other h h' hother =>
      ho other h h' ((isElementAt_reword_iff new other).mp hother)⟩

theorem isSpoken_reword_iff (new : String) (piece other : Place) :
    IsSpoken (reword new place document) piece other ↔ IsSpoken document piece other := by
  constructor
  · rintro ⟨hb, ht, hh⟩
    exact ⟨hb, (isTextAt_reword_iff new other).mp ht, fun more h h' hmore =>
      hh more h h' ((isElementAt_reword_iff new more).mpr hmore)⟩
  · rintro ⟨hb, ht, hh⟩
    exact ⟨hb, (isTextAt_reword_iff new other).mpr ht, fun more h h' hmore =>
      hh more h h' ((isElementAt_reword_iff new more).mp hmore)⟩

theorem contentAt_eq_elim (document : List Node) (place : Place) :
    contentAt document place = ((at? document place).map bare).elim "" textOf := by
  rw [contentAt]
  cases at? document place with
  | none => rfl
  | some n => cases n <;> rfl

theorem contentAt_reword (h : IsTextAt document place) (new : String) :
    contentAt (reword new place document) place = new := by
  obtain ⟨content, hcontent⟩ := h
  rw [contentAt_eq_elim, at?_reword, hcontent, Option.map_some, if_pos rfl]
  rfl

theorem contentAt_reword_of_ne {other : Place} (h : other ≠ place) (new : String) :
    contentAt (reword new place document) other = contentAt document other := by
  rw [contentAt_eq_elim, contentAt_eq_elim, at?_reword]
  simp only [if_neg h]

/-! ## The text of the reworded document -/

/-- The lists of a document are those of the document with another content. -/
theorem pageText_reword {home : Place} {pieces : List Place} {texts : Place → List Place}
    (hhome : IsFirst (IsBlockAt document) home) (hpieces : Lists (IsPiece document home) pieces)
    (htexts : ∀ piece ∈ pieces, Lists (IsSpoken document piece) (texts piece)) (new : String) :
    pageText (reword new place document) = told (reword new place document) pieces texts := by
  have hblocks : IsBlockAt (reword new place document) = IsBlockAt document :=
    funext fun other => propext (isBlockAt_reword_iff new other)
  have hpiece : IsPiece (reword new place document) home = IsPiece document home :=
    funext fun other => propext (isPiece_reword_iff new home other)
  have hspoken : ∀ piece, IsSpoken (reword new place document) piece = IsSpoken document piece :=
    fun piece => funext fun other => propext (isSpoken_reword_iff new piece other)
  refine pageText_eq_told (hblocks ▸ hhome) (hpiece ▸ hpieces) fun piece hp => ?_
  exact hspoken piece ▸ htexts piece hp

/-- What is told is longer than all texts together by the spaces between the pieces. -/
theorem length_told (document : List Node) (pieces : List Place) (texts : Place → List Place) :
    (told document pieces texts).length =
      (String.join ((pieces.flatMap texts).map (contentAt document))).length + (pieces.length - 1) := by
  induction pieces with
  | nil => rfl
  | cons piece pieces ih =>
    cases pieces with
    | nil => simp [told]
    | cons next pieces =>
      have hcons : told document (piece :: next :: pieces) texts =
          String.join ((texts piece).map (contentAt document)) ++ " " ++
            told document (next :: pieces) texts := String.intercalate_cons_cons
      have hspace : " ".length = 1 := rfl
      rw [List.flatMap_cons, List.map_append, String.join_append, hcons, String.length_append,
        String.length_append, String.length_append, ih, hspace]
      simp only [List.length_cons]
      omega

theorem length_told_lt {other : List Node} {pieces : List Place} {texts : Place → List Place}
    (hmem : place ∈ pieces.flatMap texts)
    (hlonger : (contentAt document place).length < (contentAt other place).length)
    (hsame : ∀ more, more ≠ place → contentAt other more = contentAt document more) :
    (told document pieces texts).length < (told other pieces texts).length := by
  rw [length_told, length_told, String.length_join, String.length_join, List.map_map, List.map_map]
  refine Nat.add_lt_add_right (List.sum_lt_sum _ _ (fun more _ => ?_) ⟨place, hmem, hlonger⟩) _
  by_cases h : more = place
  · exact h ▸ hlonger.le
  · exact (congrArg String.length (hsame more h)).ge

/-- The texts that contribute are those that the pieces of the first page block speak. -/
theorem contributes_iff (htext : IsTextAt document place) :
    Contributes document place ↔ ∃ home piece, IsFirst (IsBlockAt document) home ∧
      IsPiece document home piece ∧ IsSpoken document piece place := by
  by_cases hblock : ∃ other, IsBlockAt document other
  · obtain ⟨other, hother⟩ := hblock
    obtain ⟨home, block, hhome, hat, -⟩ := exists_first_block hother
    obtain ⟨pieces, texts, hpieces, htexts⟩ := exists_lists hat
    have hflat := lists_flatMap hpieces htexts
    have hdoc := pageText_eq_told hhome hpieces htexts
    constructor
    · rintro ⟨new, hnew⟩
      by_contra hnone
      refine hnew ?_
      rw [pageText_reword hhome hpieces htexts, hdoc]
      refine told_congr fun other hmem => contentAt_reword_of_ne ?_ new
      rintro rfl
      obtain ⟨piece, hpiece, hspoken⟩ := (hflat.mem_iff other).mp hmem
      exact hnone ⟨home, piece, hhome, hpiece, hspoken⟩
    · rintro ⟨home', piece, hhome', hpiece, hspoken⟩
      obtain rfl := hhome.eq hhome'
      -- a longer text in its place makes the whole longer
      refine ⟨(contentAt document place).push ' ', fun heq => ?_⟩
      rw [pageText_reword hhome hpieces htexts, hdoc] at heq
      have hmem := (hflat.mem_iff place).mpr ⟨piece, hpiece, hspoken⟩
      have hlonger : (contentAt document place).length <
          (contentAt (reword ((contentAt document place).push ' ') place document) place).length := by
        rw [contentAt_reword htext, String.length_push]
        exact Nat.lt_succ_self _
      have hlt := length_told_lt hmem hlonger fun more h => contentAt_reword_of_ne h _
      exact hlt.ne (congrArg String.length heq.symm)
  · have hnone : ∀ other, ¬ IsBlockAt document other := not_exists.mp hblock
    refine iff_of_false (fun ⟨new, hnew⟩ => hnew ?_) fun ⟨home, _, hhome, _⟩ => hnone _ hhome.holds
    rw [pageText_of_forall_not hnone, pageText_of_forall_not fun other hother =>
      hnone other ((isBlockAt_reword_iff new other).mp hother)]

/-! ## Texts below scripts and styles -/

/-- No element is a content element and a script or style. -/
theorem not_isElementAt_both (h : IsElementAt contentNames document place) :
    ¬ IsElementAt silentNames document place := by
  obtain ⟨name, attributes, children, hat, hname⟩ := h
  rintro ⟨name', attributes', children', hat', hname'⟩
  obtain ⟨rfl, -, -⟩ := Node.element.inj (Option.some.inj (hat.symm.trans hat'))
  have hapart : contentNames.all (fun n => !silentNames.contains n) = true := by decide
  simpa [hname'] using List.all_eq_true.mp hapart name hname

variable {home silent : Place}

/-- A text of the first page block that is below a script or style contributes exactly if the outermost
content element above it is itself below all the scripts and styles above it. So it is silent if a
content element stands above the script or style. -/
theorem contributes_below_silent_iff (hhome : IsFirst (IsBlockAt document) home)
    (htext : IsTextAt document place) (hsilent : IsElementAt silentNames document silent)
    (habove : Below home silent) (hbelow : Below silent place) :
    (Contributes document place ↔ ∃ piece, IsPiece document home piece ∧ Below piece place ∧
      ∀ other, IsElementAt silentNames document other → Below home other → Below other place →
        Below other piece) ∧
    ((∃ content, IsElementAt contentNames document content ∧ Below home content ∧
      Below content silent) → ¬ Contributes document place) := by
  have hiff : Contributes document place ↔ ∃ piece, IsPiece document home piece ∧
      Below piece place ∧ ∀ other, IsElementAt silentNames document other → Below home other →
        Below other place → Below other piece := by
    rw [contributes_iff htext]
    constructor
    · rintro ⟨home', piece, hhome', hpiece, hspoken⟩
      obtain rfl := hhome.eq hhome'
      refine ⟨piece, hpiece, hspoken.below, fun other hother _ hplace => ?_⟩
      rcases hplace.comparable hspoken.below with rfl | hb | hb
      · exact absurd hother (not_isElementAt_both hpiece.content)
      · exact hb
      · exact absurd hother (hspoken.heard other hb hplace)
    · rintro ⟨piece, hpiece, hplace, hall⟩
      refine ⟨home, piece, hhome, hpiece, hplace, htext, fun other hb hb' hother => ?_⟩
      exact hb.not_below (hall other hother (hpiece.below.trans hb) hb')
  refine ⟨hiff, fun ⟨content, hcontent, hb, hb'⟩ hcontributes => ?_⟩
  obtain ⟨piece, hpiece, -, hall⟩ := hiff.mp hcontributes
  -- the piece is below the script or style, so the content element is between the block and it
  exact hpiece.outermost content hb (hb'.trans (hall silent hsilent habove hbelow)) hcontent

def drawing : List Node :=
  parse "<div class='page'><svg><style><a>x</a></style></svg></div>"

/-- The text of the link is below the style and is indexed. -/
theorem link_in_style_contributes :
    IsFirst (IsBlockAt drawing) [0, 1, 0] ∧ IsTextAt drawing [0, 1, 0, 0, 0, 0, 0] ∧
    IsElementAt silentNames drawing [0, 1, 0, 0, 0] ∧ Below [0, 1, 0] [0, 1, 0, 0, 0] ∧
    Below [0, 1, 0, 0, 0] [0, 1, 0, 0, 0, 0, 0] ∧ Contributes drawing [0, 1, 0, 0, 0, 0, 0] ∧
    pageText drawing = "x" := by
  have hvalues : (reached (fun _ => true) Node.isPageBlock drawing).head?.map Prod.fst =
        some [0, 1, 0] ∧
      (at? drawing [0, 1, 0, 0, 0, 0, 0]).any isText = true ∧
      (at? drawing [0, 1, 0, 0, 0]).any (isAmong silentNames) = true ∧
      pageText (reword "y" [0, 1, 0, 0, 0, 0, 0] drawing) ≠ pageText drawing ∧
      pageText drawing = "x" := by
    decide +kernel
  obtain ⟨hhead, htext, hsilent, hnew, hvalue⟩ := hvalues
  obtain ⟨f, hf, hhome⟩ := Option.map_eq_some_iff.mp hhead
  exact ⟨hhome ▸ isFirst_of_head?_blocks hf, isTextAt_iff.mpr ((Option.any_eq_true _ _).mp htext),
    isElementAt_iff.mpr ((Option.any_eq_true _ _).mp hsilent), ⟨0, [0], rfl⟩, ⟨0, [0], rfl⟩,
    ⟨"y", hnew⟩, hvalue⟩

def scriptedPage : List Node :=
  [.element "div" [⟨"class", "page"⟩]
    [.element "p" [] [.text "a", .element "script" [] [.element "a" [] [.text "b"]]],
      .element "svg" [] [.element "style" [] [.element "a" [] [.text "x"]]]]]

theorem contributes_scriptedPage :
    IsFirst (IsBlockAt scriptedPage) [0] ∧
    (IsTextAt scriptedPage [0, 0, 1, 0, 0] ∧ IsElementAt silentNames scriptedPage [0, 0, 1] ∧
      ¬ Contributes scriptedPage [0, 0, 1, 0, 0]) ∧
    IsTextAt scriptedPage [0, 1, 0, 0, 0] ∧ IsElementAt silentNames scriptedPage [0, 1, 0] ∧
    (Contributes scriptedPage [0, 1, 0, 0, 0] ↔ ∃ piece, IsPiece scriptedPage [0] piece ∧
      Below piece [0, 1, 0, 0, 0] ∧ ∀ other, IsElementAt silentNames scriptedPage other →
        Below [0] other → Below other [0, 1, 0, 0, 0] → Below other piece) ∧
    pageText scriptedPage = "a x" := by
  have hhead : (reached (fun _ => true) Node.isPageBlock scriptedPage).head?.map Prod.fst =
      some [0] := by decide
  obtain ⟨f, hf, hhome⟩ := Option.map_eq_some_iff.mp hhead
  have hfirst : IsFirst (IsBlockAt scriptedPage) [0] := hhome ▸ isFirst_of_head?_blocks hf
  have hcontent : IsElementAt contentNames scriptedPage [0, 0] := ⟨"p", _, _, rfl, by decide⟩
  have hscript : IsElementAt silentNames scriptedPage [0, 0, 1] := ⟨"script", _, _, rfl, by decide⟩
  have hstyle : IsElementAt silentNames scriptedPage [0, 1, 0] := ⟨"style", _, _, rfl, by decide⟩
  have hquiet := @contributes_below_silent_iff _ [0, 0, 1, 0, 0] _ _ hfirst ⟨"b", rfl⟩ hscript
    ⟨0, [1], rfl⟩ ⟨0, [0], rfl⟩
  have hloud := @contributes_below_silent_iff _ [0, 1, 0, 0, 0] _ _ hfirst ⟨"x", rfl⟩ hstyle
    ⟨1, [0], rfl⟩ ⟨0, [0], rfl⟩
  exact ⟨hfirst, ⟨⟨"b", rfl⟩, hscript, hquiet.2 ⟨[0, 0], hcontent, ⟨0, [], rfl⟩, ⟨1, [], rfl⟩⟩⟩,
    ⟨"x", rfl⟩, hstyle, hloud.1, by decide⟩

end Concordance.Proofs.Html.Silence
