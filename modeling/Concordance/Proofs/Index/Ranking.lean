import Mathlib.Data.List.Nodup
import Concordance.Proofs.Index.Checking
import Concordance.Proofs.Index.Retrieval
import Concordance.Search

/-!
# Ranked search is an exact top-k

A ranking of an expression holds, for every id in its result that is the id of a document and as often
as it occurs there, that id with its score, best first. There is exactly one ranking, because entries
that neither of them outranks are the same. The results of a search are what is shown of its first
entries, for any limit and on any index, whether its structure is sound or not.
-/
namespace Concordance.Proofs.Index.Ranking

open Concordance.Query Checking Merging Retrieval

/-! ## The order of matches -/

/-- The first match stands before the second: it has the higher score or, with the same score, the
lower id. -/
def Outranks (a b : Match) : Prop :=
  Score.place b.score < Score.place a.score ∨
    Score.place a.score = Score.place b.score ∧ a.id < b.id

theorem before_iff (a b : Match) : Match.before a b = true ↔ ¬ Outranks b a := by
  simp only [Match.before, Outranks, Bool.or_eq_true, Bool.and_eq_true, decide_eq_true_eq, not_or,
    not_and, not_lt]
  constructor
  · rintro (h | ⟨h, hid⟩)
    · exact ⟨h.le, fun he => absurd he h.ne⟩
    · exact ⟨h.ge, fun _ => hid⟩
  · rintro ⟨hle, hid⟩
    rcases hle.lt_or_eq with h | h
    · exact Or.inl h
    · exact Or.inr ⟨h.symm, hid h⟩

theorem before_trans (a b c : Match) (hab : Match.before a b = true)
    (hbc : Match.before b c = true) : Match.before a c = true := by
  simp only [Match.before, Bool.or_eq_true, Bool.and_eq_true, decide_eq_true_eq] at hab hbc ⊢
  rcases hab with hab | ⟨hab, hid⟩
  · rcases hbc with hbc | ⟨hbc, -⟩
    · exact Or.inl (hbc.trans hab)
    · exact Or.inl (hbc ▸ hab)
  · rcases hbc with hbc | ⟨hbc, hid'⟩
    · exact Or.inl (hab ▸ hbc)
    · exact Or.inr ⟨hab.trans hbc, le_trans hid hid'⟩

theorem before_total (a b : Match) : (Match.before a b || Match.before b a) = true := by
  simp only [Match.before, Bool.or_eq_true, Bool.and_eq_true, decide_eq_true_eq]
  rcases lt_trichotomy (Score.place a.score) (Score.place b.score) with h | h | h
  · exact Or.inr (Or.inl h)
  · rcases le_total a.id b.id with hid | hid
    · exact Or.inl (Or.inr ⟨h, hid⟩)
    · exact Or.inr (Or.inr ⟨h.symm, hid⟩)
  · exact Or.inl (Or.inl h)

/-! ## Rankings -/

/-- The entries of an expression's result that have a document, each with its score, in an order in
which none stands after one that it outranks. -/
structure IsRanking (index : Index) (e : Expr) (ranking : List Match) : Prop where
  ids : (ranking.map Match.id).Perm ((e.evaluate index).filter (fun id => id < index.documents.size))
  scored : ∀ m ∈ ranking, ∃ d : Document, index.documents[m.id]? = some d ∧
    m.score = Score.score e.terms d
  ordered : ranking.Pairwise (fun a b => ¬ Outranks b a)

theorem map_id_matched (index : Index) (e : Expr) : (index.matched e).map Match.id =
    (e.evaluate index).filter (fun id => id < index.documents.size) := by
  rw [Index.matched]
  generalize e.evaluate index = ids
  induction ids with
  | nil => rfl
  | cons id ids ih =>
    by_cases hid : id < index.documents.size
    · have hd : index.document? id = some index.documents[id] := Array.getElem?_eq_getElem hid
      rw [List.filterMap_cons_some (by rw [hd]; rfl), List.map_cons, ih,
        List.filter_cons_of_pos (by simpa using hid)]
    · have hd : index.document? id = none := Array.getElem?_eq_none (not_lt.mp hid)
      rw [List.filterMap_cons_none (by rw [hd]; rfl), ih,
        List.filter_cons_of_neg (by simpa using hid)]

theorem scored_matched {index : Index} {e : Expr} {m : Match} (hm : m ∈ index.matched e) :
    ∃ d : Document, index.documents[m.id]? = some d ∧ m.score = Score.score e.terms d := by
  obtain ⟨id, -, hm⟩ := List.mem_filterMap.mp hm
  obtain ⟨d, hd, rfl⟩ := Option.map_eq_some_iff.mp hm
  exact ⟨d, hd, rfl⟩

theorem isRanking_mergeSort (index : Index) (e : Expr) :
    IsRanking index e ((index.matched e).mergeSort Match.before) where
  ids := by
    rw [← map_id_matched]
    exact (List.mergeSort_perm _ _).map _
  scored m hm := scored_matched (List.mem_mergeSort.mp hm)
  ordered := (List.pairwise_mergeSort before_trans before_total _).imp fun h => (before_iff _ _).mp h

namespace IsRanking

variable {index : Index} {e : Expr} {xs ys : List Match}

/-- Entries with one id have one score. -/
theorem eq_of_id_eq (hx : IsRanking index e xs) (hy : IsRanking index e ys) {a b : Match}
    (ha : a ∈ xs) (hb : b ∈ ys) (h : a.id = b.id) : a = b := by
  obtain ⟨d, hd, hs⟩ := hx.scored a ha
  obtain ⟨d', hd', hs'⟩ := hy.scored b hb
  rw [h, hd'] at hd
  cases hd
  cases a
  cases b
  simp_all

theorem perm (hx : IsRanking index e xs) (hy : IsRanking index e ys) : xs.Perm ys := by
  -- both are their ids with the scores of the documents
  let entry (id : DocumentId) : Match := ⟨id, (index.documents[id]?.map (Score.score e.terms)).getD 0⟩
  have hentry : ∀ {zs : List Match}, IsRanking index e zs → (zs.map Match.id).map entry = zs := by
    intro zs hz
    rw [List.map_map]
    refine (List.map_congr_left fun m hm => ?_).trans (List.map_id zs)
    obtain ⟨d, hd, hs⟩ := hz.scored m hm
    simp [entry, hd, ← hs]
  rw [← hentry hx, ← hentry hy]
  exact (hx.ids.trans hy.ids.symm).map entry

/-- Of two entries neither of which outranks the other both have the same id, so they are the same. -/
theorem unique (hx : IsRanking index e xs) (hy : IsRanking index e ys) : xs = ys := by
  refine (hx.perm hy).eq_of_pairwise (fun a b ha hb hab hba => ?_) hx.ordered hy.ordered
  refine hx.eq_of_id_eq hy ha hb ?_
  simp only [Outranks, not_or, not_and, not_lt] at hab hba
  have hplace := le_antisymm hab.1 hba.1
  exact le_antisymm (hab.2 hplace) (hba.2 hplace.symm)

/-- No entry after the first `limit` outranks one of these. -/
theorem not_outranks (hx : IsRanking index e xs) {limit : Nat} {a b : Match}
    (ha : a ∈ xs.take limit) (hb : b ∈ xs.drop limit) : ¬ Outranks b a := by
  have hordered := hx.ordered
  rw [← List.take_append_drop limit xs, List.pairwise_append] at hordered
  exact hordered.2.2 a ha b hb

end IsRanking

/-! ## Results -/

/-- What a result says of a match: its id and score, and the URL and the beginning of its document. -/
structure Shows (index : Index) (settings : Settings) (m : Match) (hit : Hit) : Prop where
  id_eq : hit.id = m.id
  score_eq : hit.score = m.score
  document : ∃ d : Document, index.documents[m.id]? = some d ∧ hit.url = d.url ∧
    hit.snippet = d.snippet settings.snippetLength

/-- Every match that has a document is shown. -/
theorem shows_filterMap (index : Index) (settings : Settings) (ms : List Match)
    (h : ∀ m ∈ ms, ∃ d : Document, index.documents[m.id]? = some d) :
    List.Forall₂ (Shows index settings) ms (ms.filterMap (index.present? settings)) := by
  induction ms with
  | nil => exact .nil
  | cons m ms ih =>
    obtain ⟨d, hd⟩ := h m List.mem_cons_self
    have hp : index.present? settings m =
        some ⟨m.id, d.url, d.snippet settings.snippetLength, m.score⟩ := by
      rw [Index.present?, Index.document?, hd, Option.map_some]
    rw [List.filterMap_cons_some hp]
    exact .cons ⟨rfl, rfl, d, hd, rfl, rfl⟩ (ih fun m' hm' => h m' (List.mem_cons_of_mem m hm'))

theorem shows_search {index : Index} {e : Expr} {ranking : List Match}
    (h : IsRanking index e ranking) (settings : Settings) :
    List.Forall₂ (Shows index settings) (ranking.take settings.maxResults)
      (index.search settings e) := by
  obtain rfl := h.unique (isRanking_mergeSort index e)
  refine shows_filterMap index settings _ fun m hm => ?_
  obtain ⟨d, hd, -⟩ := h.scored m (List.mem_of_mem_take hm)
  exact ⟨d, hd⟩

/-- Another limit only cuts the results elsewhere. -/
theorem search_isPrefix (index : Index) (e : Expr) {settings settings' : Settings}
    (hs : settings.snippetLength = settings'.snippetLength)
    (hm : settings.maxResults ≤ settings'.maxResults) :
    index.search settings e <+: index.search settings' e := by
  have hp : index.present? settings = index.present? settings' := by
    funext m
    rw [Index.present?, Index.present?, hs]
  rw [Index.search, Index.search, hp]
  exact (List.take_prefix_take_left hm).filterMap _

theorem map_id_of_shows {index : Index} {settings : Settings} {ms : List Match} {hits : List Hit}
    (h : List.Forall₂ (Shows index settings) ms hits) : hits.map Hit.id = ms.map Match.id := by
  induction h with
  | nil => rfl
  | cons hm _ ih => rw [List.map_cons, List.map_cons, hm.id_eq, ih]

theorem exists_match_of_shows {index : Index} {settings : Settings} {ms : List Match}
    {hits : List Hit} (h : List.Forall₂ (Shows index settings) ms hits) :
    ∀ hit ∈ hits, ∃ m ∈ ms, Shows index settings m hit := by
  induction h with
  | nil => simp
  | cons hm _ ih =>
    intro hit hhit
    rcases List.mem_cons.mp hhit with rfl | hhit
    · exact ⟨_, List.mem_cons_self, hm⟩
    · obtain ⟨m, hm, hshows⟩ := ih hit hhit
      exact ⟨m, List.mem_cons_of_mem _ hm, hshows⟩

/-- On a sound index the ids in a ranking are those of the evaluation, each once. -/
theorem ids_of_sound {index : Index} {e : Expr} {ranking : List Match} (hs : Index.Sound index)
    (h : IsRanking index e ranking) : (ranking.map Match.id).Perm (e.evaluate index) := by
  have hw := within_evaluate (within_postingsFor hs) e
  have hall : (e.evaluate index).filter (fun id => id < index.documents.size) = e.evaluate index :=
    List.filter_eq_self.mpr fun id hid => decide_eq_true (hw.inRange id hid)
  exact hall ▸ h.ids

/-- On any index there is one ranking of an expression, and for every limit the results are what is
shown of its first entries, in order, so that none that is left out outranks one that is returned, and
a larger limit only adds results at the end. On an index that passed the check the ranking has one
entry for each id in the expression's result, and no two results have the same id. -/
theorem search_exact (index : Index) (e : Expr) :
    ∃ ranking : List Match,
      IsRanking index e ranking ∧
      (∀ other : List Match, IsRanking index e other → other = ranking) ∧
      (∀ settings : Settings,
        (index.search settings e).length = min settings.maxResults ranking.length ∧
        List.Forall₂ (Shows index settings) (ranking.take settings.maxResults)
          (index.search settings e)) ∧
      (∀ settings : Settings, ∀ m ∈ ranking.drop settings.maxResults,
        ∀ hit ∈ index.search settings e, ¬ Outranks m ⟨hit.id, hit.score⟩) ∧
      (∀ settings settings' : Settings, settings.snippetLength = settings'.snippetLength →
        settings.maxResults ≤ settings'.maxResults →
        index.search settings e <+: index.search settings' e) ∧
      (index.check = .ok () →
        ranking.length = (e.evaluate index).length ∧
        ∀ settings : Settings, ((index.search settings e).map Hit.id).Nodup) := by
  have h := isRanking_mergeSort index e
  refine ⟨_, h, fun other ho => ho.unique h, fun settings => ⟨?_, shows_search h settings⟩,
    fun settings m hm hit hhit => ?_, fun settings settings' => search_isPrefix index e, fun hc => ?_⟩
  · rw [← (shows_search h settings).length_eq, List.length_take]
  · obtain ⟨m', hm', hshows⟩ := exists_match_of_shows (shows_search h settings) hit hhit
    have heq : (⟨hit.id, hit.score⟩ : Match) = m' := by rw [hshows.id_eq, hshows.score_eq]
    exact heq ▸ h.not_outranks hm' hm
  · have hids := ids_of_sound ((check_eq_ok_iff index).mp hc) h
    have hw := within_evaluate (within_postingsFor ((check_eq_ok_iff index).mp hc)) e
    refine ⟨by simpa using hids.length_eq, fun settings => ?_⟩
    rw [map_id_of_shows (shows_search h settings), List.map_take]
    have hnodup : (e.evaluate index).Nodup := hw.ascending.imp ne_of_lt
    exact (hids.nodup_iff.mpr hnodup).sublist (List.take_sublist _ _)

def tiedDocuments : Index :=
  .ofEntries [⟨"", "x", ["a"]⟩, ⟨"", "y", ["b"]⟩, ⟨"", "z", ["b"]⟩]

/-- A limit that falls between two documents of equal score returns one of them, although two match. -/
theorem search_tiedDocuments :
    tiedDocuments.check = .ok () ∧
    ((Expr.word "B").evaluate tiedDocuments).length = 2 ∧
    (tiedDocuments.search ⟨1, 10⟩ (.word "B")).length = 1 ∧
    ((tiedDocuments.search ⟨3, 10⟩ (.word "B")).map Hit.id).Nodup := by
  have hc : tiedDocuments.check = .ok () := rfl
  have he : ((Expr.word "B").evaluate tiedDocuments).length = 2 := by decide
  obtain ⟨ranking, -, -, hresults, -, -, hsound⟩ := search_exact tiedDocuments (.word "B")
  obtain ⟨hlength, hnodup⟩ := hsound hc
  refine ⟨hc, he, ?_, hnodup ⟨3, 10⟩⟩
  rw [(hresults ⟨1, 10⟩).1, hlength, he]
  rfl

end Concordance.Proofs.Index.Ranking
