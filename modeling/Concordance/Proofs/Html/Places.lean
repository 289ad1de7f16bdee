import Mathlib.Data.List.Lex
import Mathlib.Data.List.Sort
import Concordance.Html.Node

/-!
# Places in a document

A place says which child is taken at each step on the way down to a node. Places compared word by word
are nodes in document order: a node comes before everything below it, and with all of it before its later
siblings. A search through a document that enters some nodes only and keeps some of those it reaches is
described here by places, so that each recursion over trees can be told as such a search.
-/
namespace Concordance.Proofs.Html.Places

open Concordance.Html

/-- The steps from the top of a document down to a node, each the number of a child. -/
abbrev Place := List Nat

def nodeAt? : Node → Place → Option Node
  | n, [] => some n
  | n, i :: place => n.children[i]?.bind fun child => nodeAt? child place

def at? (document : List Node) : Place → Option Node
  | [] => none
  | i :: place => document[i]?.bind fun n => nodeAt? n place

def Before (place other : Place) : Prop :=
  List.Lex (· < ·) place other

def Below (top place : Place) : Prop :=
  ∃ (i : Nat) (rest : Place), place = top ++ i :: rest

/-- The places with some property, each once and in document order. -/
structure Lists (P : Place → Prop) (places : List Place) : Prop where
  ordered : places.Pairwise Before
  mem_iff : ∀ place, place ∈ places ↔ P place

structure IsFirst (P : Place → Prop) (place : Place) : Prop where
  holds : P place
  first : ∀ other, P other → ¬ Before other place

/-- Lists of nodes are made from nothing, by a text in front and by an element in front. -/
theorem nodes_induction {motive : List Node → Prop} (nil : motive [])
    (text : ∀ content nodes, motive nodes → motive (.text content :: nodes))
    (element : ∀ name attributes children nodes, motive children → motive nodes →
      motive (.element name attributes children :: nodes)) : ∀ nodes, motive nodes
  | [] => nil
  | .text content :: nodes => text content nodes (nodes_induction nil text element nodes)
  | .element name attributes children :: nodes =>
    element name attributes children nodes (nodes_induction nil text element children)
      (nodes_induction nil text element nodes)

/-! ## The order of places -/

instance : Std.Irrefl Before := inferInstanceAs (Std.Irrefl (List.Lex (· < ·)))

instance : Std.Asymm Before := inferInstanceAs (Std.Asymm (List.Lex (· < ·)))

instance : Std.Trichotomous Before := inferInstanceAs (Std.Trichotomous (List.Lex (· < ·)))

theorem before_append_left {place other : Place} (h : Before place other) (top : Place) :
    Before (top ++ place) (top ++ other) :=
  List.Lex.append_left _ h top

/-- All that is at or below a place comes before all that is at or below a later one, unless the one is
below the other. -/
theorem before_append {place other : Place} (h : Before place other) (hb : ¬ Below place other)
    (rest more : Place) : Before (place ++ rest) (other ++ more) := by
  induction h with
  | nil => exact absurd ⟨_, _, rfl⟩ hb
  | rel hlt => exact .rel hlt
  | cons _ ih =>
    refine .cons (ih fun hb' => hb ?_)
    obtain ⟨i, rest, rfl⟩ := hb'
    exact ⟨i, rest, rfl⟩

theorem below_append_iff {top place : Place} : Below top (top ++ place) ↔ place ≠ [] := by
  constructor
  · rintro ⟨i, rest, h⟩ rfl
    simp at h
  · intro h
    obtain ⟨i, rest, rfl⟩ := List.exists_cons_of_ne_nil h
    exact ⟨i, rest, rfl⟩

theorem below_append_append_iff {top place other : Place} :
    Below (top ++ place) (top ++ other) ↔ Below place other := by
  simp only [Below, List.append_assoc, List.append_cancel_left_eq]

theorem not_below_nil (place : Place) : ¬ Below place [] := by
  rintro ⟨i, rest, h⟩
  simp at h

theorem below_cons_iff {place rest : Place} {i : Nat} :
    Below place (i :: rest) ↔ place = [] ∨ ∃ other, place = i :: other ∧ Below other rest := by
  constructor
  · rintro ⟨j, more, h⟩
    cases place with
    | nil => exact .inl rfl
    | cons k other =>
      obtain ⟨rfl, rfl⟩ := List.cons_eq_cons.mp h
      exact .inr ⟨other, rfl, j, more, rfl⟩
  · rintro (rfl | ⟨other, rfl, j, more, rfl⟩)
    · exact ⟨i, rest, rfl⟩
    · exact ⟨j, more, rfl⟩

theorem Below.trans {top place other : Place} (h : Below top place) (h' : Below place other) :
    Below top other := by
  obtain ⟨i, rest, rfl⟩ := h
  obtain ⟨j, more, rfl⟩ := h'
  exact ⟨i, rest ++ j :: more, by rw [List.append_assoc, List.cons_append]⟩

/-- Of two places above a third, the one is above the other unless they are the same. -/
theorem Below.comparable {place other bottom : Place} (h : Below place bottom)
    (h' : Below other bottom) : place = other ∨ Below place other ∨ Below other place := by
  have hleads : ∀ {top : Place}, Below top bottom → top <+: bottom := by
    rintro top ⟨i, rest, rfl⟩
    exact List.prefix_append _ _
  rcases List.prefix_or_prefix_of_prefix (hleads h) (hleads h') with ⟨rest, rfl⟩ | ⟨rest, rfl⟩
  · cases rest with
    | nil => exact .inl (List.append_nil place).symm
    | cons i rest => exact .inr (.inl ⟨i, rest, rfl⟩)
  · cases rest with
    | nil => exact .inl (List.append_nil other)
    | cons i rest => exact .inr (.inr ⟨i, rest, rfl⟩)

theorem Below.not_below {place other : Place} (h : Below place other) : ¬ Below other place := by
  rintro ⟨j, more, hplace⟩
  obtain ⟨i, rest, rfl⟩ := h
  have := congrArg List.length hplace
  simp at this

/-- There is only one list of the places with a property. -/
theorem Lists.eq {P : Place → Prop} {places others : List Place} (h : Lists P places)
    (h' : Lists P others) : places = others :=
  h.ordered.eq_of_mem_iff h'.ordered fun place => (h.mem_iff place).trans (h'.mem_iff place).symm

theorem IsFirst.eq {P : Place → Prop} {place other : Place} (h : IsFirst P place)
    (h' : IsFirst P other) : place = other :=
  Std.Trichotomous.trichotomous place other (h'.first place h.holds) (h.first other h'.holds)

/-! ## What lies at a place -/

theorem nodeAt?_append (n : Node) (place rest : Place) :
    nodeAt? n (place ++ rest) = (nodeAt? n place).bind fun m => nodeAt? m rest := by
  induction place generalizing n with
  | nil => rfl
  | cons i place ih =>
    rw [List.cons_append, nodeAt?, nodeAt?]
    cases n.children[i]? with
    | none => rfl
    | some child => exact ih child

theorem nodeAt?_cons (n : Node) (i : Nat) (place : Place) :
    nodeAt? n (i :: place) = at? n.children (i :: place) :=
  rfl

theorem at?_append {document : List Node} {top : Place} {n : Node} (h : at? document top = some n)
    (i : Nat) (rest : Place) : at? document (top ++ i :: rest) = at? n.children (i :: rest) := by
  cases top with
  | nil => cases h
  | cons j place =>
    rw [at?] at h
    rw [List.cons_append, at?]
    cases hj : document[j]? with
    | none => rw [hj] at h; cases h
    | some m =>
      rw [hj, Option.bind_some] at h
      rw [Option.bind_some, nodeAt?_append, h]
      rfl

/-! ## Searching a document -/

mutual

/-- The nodes that a search keeps of a node and of those below it, with their places counted from the
node. What is below a node is searched only if the node is entered. -/
def reachedFrom (enter keep : Node → Bool) : Node → List (Place × Node)
  | .text content => if keep (.text content) then [([], .text content)] else []
  | .element name attributes children =>
    (if keep (.element name attributes children) then [([], .element name attributes children)]
      else []) ++
    if enter (.element name attributes children) then reached enter keep children else []

def reached (enter keep : Node → Bool) : List Node → List (Place × Node)
  | [] => []
  | n :: nodes =>
    (reachedFrom enter keep n).map (fun f => (0 :: f.1, f.2)) ++
      (reached enter keep nodes).map fun f => (f.1.modifyHead (· + 1), f.2)

end

/-- What it takes to be kept by a search from a node: each node on the way is entered. -/
structure KeptFrom (enter keep : Node → Bool) (n : Node) (place : Place) (found : Node) : Prop where
  lies : nodeAt? n place = some found
  kept : keep found = true
  entered : ∀ other above, Below other place → nodeAt? n other = some above → enter above = true

structure KeptIn (enter keep : Node → Bool) (nodes : List Node) (place : Place) (found : Node) :
    Prop where
  lies : at? nodes place = some found
  kept : keep found = true
  entered : ∀ other above, Below other place → at? nodes other = some above → enter above = true

variable {enter keep : Node → Bool}

/-! ### What is kept -/

theorem keptIn_iff {nodes : List Node} {place : Place} {found : Node} :
    KeptIn enter keep nodes place found ↔ ∃ (i : Nat) (rest : Place) (n : Node),
      place = i :: rest ∧ nodes[i]? = some n ∧ KeptFrom enter keep n rest found := by
  constructor
  · rintro ⟨hlies, hkept, hentered⟩
    cases place with
    | nil => cases hlies
    | cons i rest =>
      obtain ⟨n, hn, hrest⟩ := Option.bind_eq_some_iff.mp hlies
      refine ⟨i, rest, n, rfl, hn, hrest, hkept, fun other above hb habove => ?_⟩
      refine hentered (i :: other) above (below_cons_iff.mpr (.inr ⟨other, rfl, hb⟩)) ?_
      exact Option.bind_eq_some_iff.mpr ⟨n, hn, habove⟩
  · rintro ⟨i, rest, n, rfl, hn, hlies, hkept, hentered⟩
    refine ⟨Option.bind_eq_some_iff.mpr ⟨n, hn, hlies⟩, hkept, fun place above hb habove => ?_⟩
    rcases below_cons_iff.mp hb with rfl | ⟨other, rfl, hother⟩
    · cases habove
    · obtain ⟨m, hm, habove⟩ := Option.bind_eq_some_iff.mp habove
      obtain rfl := Option.some.inj (hn.symm.trans hm)
      exact hentered other above hother habove

theorem keptFrom_text_iff {content : String} {place : Place} {found : Node} :
    KeptFrom enter keep (.text content) place found ↔
      place = [] ∧ found = .text content ∧ keep (.text content) = true := by
  constructor
  · rintro ⟨hlies, hkept, -⟩
    cases place with
    | nil =>
      obtain rfl := Option.some.inj hlies
      exact ⟨rfl, rfl, hkept⟩
    | cons i rest => cases hlies
  · rintro ⟨rfl, rfl, hkept⟩
    exact ⟨rfl, hkept, fun other _ hb => absurd hb (not_below_nil other)⟩

theorem keptFrom_element_iff {name : String} {attributes : List Attribute} {children : List Node}
    {place : Place} {found : Node} :
    KeptFrom enter keep (.element name attributes children) place found ↔
      (place = [] ∧ found = .element name attributes children ∧
        keep (.element name attributes children) = true) ∨
      enter (.element name attributes children) = true ∧ KeptIn enter keep children place found := by
  constructor
  · rintro ⟨hlies, hkept, hentered⟩
    cases place with
    | nil =>
      obtain rfl := Option.some.inj hlies
      exact .inl ⟨rfl, rfl, hkept⟩
    | cons i rest =>
      refine .inr ⟨hentered [] _ ⟨i, rest, rfl⟩ rfl, hlies, hkept, fun other above hb habove => ?_⟩
      cases other with
      | nil => cases habove
      | cons j other => exact hentered (j :: other) above hb habove
  · rintro (⟨rfl, rfl, hkept⟩ | ⟨henter, hlies, hkept, hentered⟩)
    · exact ⟨rfl, hkept, fun other _ hb => absurd hb (not_below_nil other)⟩
    · cases place with
      | nil => cases hlies
      | cons i rest =>
        refine ⟨hlies, hkept, fun other above hb habove => ?_⟩
        cases other with
        | nil =>
          obtain rfl := Option.some.inj habove
          exact henter
        | cons j other => exact hentered (j :: other) above hb habove

theorem mem_reached {nodes : List Node} {place : Place} {found : Node} :
    (place, found) ∈ reached enter keep nodes ↔ ∃ (i : Nat) (rest : Place) (n : Node),
      place = i :: rest ∧ nodes[i]? = some n ∧ (rest, found) ∈ reachedFrom enter keep n := by
  induction nodes generalizing place with
  | nil => simp [reached]
  | cons n nodes ih =>
    rw [reached, List.mem_append, List.mem_map, List.mem_map]
    constructor
    · rintro (⟨f, hf, he⟩ | ⟨f, hf, he⟩)
      · cases he
        exact ⟨0, f.1, n, rfl, rfl, hf⟩
      · cases he
        obtain ⟨i, rest, m, hplace, hm, hrest⟩ := ih.mp hf
        exact ⟨i + 1, rest, m, by rw [hplace]; rfl, hm, hrest⟩
    · rintro ⟨i, rest, m, rfl, hm, hrest⟩
      cases i with
      | zero =>
        obtain rfl := Option.some.inj hm
        exact .inl ⟨_, hrest, rfl⟩
      | succ i => exact .inr ⟨(i :: rest, found), ih.mpr ⟨i, rest, m, rfl, hm, hrest⟩, rfl⟩

theorem mem_reached_of_forall {nodes : List Node}
    (h : ∀ n ∈ nodes, ∀ (place : Place) (found : Node),
      (place, found) ∈ reachedFrom enter keep n ↔ KeptFrom enter keep n place found)
    (place : Place) (found : Node) :
    (place, found) ∈ reached enter keep nodes ↔ KeptIn enter keep nodes place found := by
  rw [mem_reached, keptIn_iff]
  refine exists_congr fun i => exists_congr fun rest => exists_congr fun n => ?_
  exact and_congr_right fun _ => and_congr_right fun hn => h n (List.mem_of_getElem? hn) rest found

/-- A search from a node keeps exactly what it is to keep and can get to. -/
theorem mem_reachedFrom {nodes : List Node} : ∀ n ∈ nodes, ∀ (place : Place) (found : Node),
    (place, found) ∈ reachedFrom enter keep n ↔ KeptFrom enter keep n place found := by
  induction nodes using nodes_induction with
  | nil => simp
  | text content nodes ih =>
    refine List.forall_mem_cons.mpr ⟨fun place found => ?_, ih⟩
    rw [keptFrom_text_iff, reachedFrom]
    by_cases hkeep : keep (.text content) = true
    · simp [hkeep]
    · simp [hkeep]
  | element name attributes children nodes ihc ih =>
    refine List.forall_mem_cons.mpr ⟨fun place found => ?_, ih⟩
    rw [keptFrom_element_iff, reachedFrom, List.mem_append]
    refine or_congr ?_ ?_
    · by_cases hkeep : keep (.element name attributes children) = true
      · simp [hkeep]
      · simp [hkeep]
    · by_cases henter : enter (.element name attributes children) = true
      · simp [henter, mem_reached_of_forall ihc]
      · simp [henter]

theorem mem_reached_iff {nodes : List Node} {place : Place} {found : Node} :
    (place, found) ∈ reached enter keep nodes ↔ KeptIn enter keep nodes place found :=
  mem_reached_of_forall mem_reachedFrom place found

def found (enter keep : Node → Bool) (nodes : List Node) : List Node :=
  (reached enter keep nodes).map Prod.snd

theorem found_cons (n : Node) (nodes : List Node) : found enter keep (n :: nodes) =
    (reachedFrom enter keep n).map Prod.snd ++ found enter keep nodes := by
  rw [found, reached, List.map_append, List.map_map, List.map_map]
  rfl

theorem found_text (content : String) (nodes : List Node) :
    found enter keep (.text content :: nodes) =
      (if keep (.text content) then [.text content] else []) ++ found enter keep nodes := by
  rw [found_cons, reachedFrom]
  split_ifs
  · rfl
  · rfl

theorem found_element (name : String) (attributes : List Attribute) (children nodes : List Node) :
    found enter keep (.element name attributes children :: nodes) =
      (if keep (.element name attributes children) then [.element name attributes children]
        else []) ++
      (if enter (.element name attributes children) then found enter keep children else []) ++
      found enter keep nodes := by
  rw [found_cons, reachedFrom, List.map_append, found]
  split_ifs
  · rfl
  · rfl
  · rfl
  · rfl

/-! ### The order of what is kept -/

theorem before_modifyHead {place other : Place} (h : Before place other) :
    Before (place.modifyHead (· + 1)) (other.modifyHead (· + 1)) := by
  cases h with
  | nil => exact .nil
  | rel hlt => exact .rel (Nat.succ_lt_succ hlt)
  | cons hrest => exact .cons hrest

/-- A search finds the nodes in document order. -/
theorem ordered_reached (enter keep : Node → Bool) (nodes : List Node) :
    (reached enter keep nodes).Pairwise fun f g => Before f.1 g.1 := by
  have hcons : ∀ (n : Node) (rest : List Node),
      (reachedFrom enter keep n).Pairwise (fun f g => Before f.1 g.1) →
      (reached enter keep rest).Pairwise (fun f g => Before f.1 g.1) →
      (reached enter keep (n :: rest)).Pairwise fun f g => Before f.1 g.1 := by
    intro n rest hn hrest
    rw [reached, List.pairwise_append, List.pairwise_map, List.pairwise_map]
    refine ⟨hn.imp fun h => .cons h, hrest.imp before_modifyHead, ?_⟩
    -- all of the first tree comes before all of the others
    intro f hf g hg
    obtain ⟨early, -, rfl⟩ := List.mem_map.mp hf
    obtain ⟨late, hlate, rfl⟩ := List.mem_map.mp hg
    obtain ⟨i, more, m, hplace, -, -⟩ := mem_reached.mp hlate
    rw [hplace]
    exact .rel (Nat.succ_pos i)
  induction nodes using nodes_induction with
  | nil => exact List.Pairwise.nil
  | text content nodes ih =>
    refine hcons _ _ ?_ ih
    rw [reachedFrom]
    split_ifs
    · exact List.pairwise_singleton _ _
    · exact List.Pairwise.nil
  | element name attributes children nodes ihc ih =>
    refine hcons _ _ ?_ ih
    have hbelow : ∀ g ∈ reached enter keep children, Before [] g.1 := by
      intro g hg
      obtain ⟨i, rest, m, hplace, -, -⟩ := mem_reached.mp hg
      rw [hplace]
      exact .nil
    rw [reachedFrom]
    split_ifs
    · exact List.pairwise_cons.mpr ⟨hbelow, ihc⟩
    · exact List.pairwise_singleton _ _
    · exact ihc
    · exact List.Pairwise.nil

/-! ### Searching below a place -/

structure Kept (enter keep : Node → Bool) (document : List Node) (top place : Place) : Prop where
  below : Below top place
  kept : ∃ n, at? document place = some n ∧ keep n = true
  entered : ∀ other n, Below top other → Below other place → at? document other = some n →
    enter n = true

theorem kept_append_iff {document : List Node} {top rest : Place} {n : Node}
    (h : at? document top = some n) : Kept enter keep document top (top ++ rest) ↔
      ∃ found, KeptIn enter keep n.children rest found := by
  have hat : ∀ (place : Place), place ≠ [] → at? document (top ++ place) = at? n.children place := by
    intro place hne
    obtain ⟨i, more, rfl⟩ := List.exists_cons_of_ne_nil hne
    exact at?_append h i more
  constructor
  · rintro ⟨hb, ⟨found, hfound, hkept⟩, hentered⟩
    rw [hat rest (below_append_iff.mp hb)] at hfound
    refine ⟨found, hfound, hkept, fun other above hother habove => ?_⟩
    have hne : other ≠ [] := by
      rintro rfl
      cases habove
    exact hentered (top ++ other) above (below_append_iff.mpr hne)
      (below_append_append_iff.mpr hother) ((hat other hne).trans habove)
  · rintro ⟨found, hfound, hkept, hentered⟩
    have hne : rest ≠ [] := by
      rintro rfl
      cases hfound
    refine ⟨below_append_iff.mpr hne, ⟨found, (hat rest hne).trans hfound, hkept⟩, ?_⟩
    intro place above hplace hb habove
    obtain ⟨i, more, rfl⟩ := hplace
    rw [at?_append h] at habove
    exact hentered (i :: more) above (below_append_append_iff.mp hb) habove

def placesBelow (enter keep : Node → Bool) (document : List Node) (top : Place) : List Place :=
  (at? document top).elim [] fun n => (reached enter keep n.children).map fun f => top ++ f.1

theorem lists_placesBelow {document : List Node} {top : Place} {n : Node}
    (h : at? document top = some n) :
    Lists (Kept enter keep document top) (placesBelow enter keep document top) where
  ordered := by
    rw [placesBelow, h, Option.elim_some, List.pairwise_map]
    exact (ordered_reached enter keep n.children).imp fun hb => before_append_left hb top
  mem_iff place := by
    rw [placesBelow, h, Option.elim_some, List.mem_map]
    constructor
    · rintro ⟨f, hf, rfl⟩
      exact (kept_append_iff h).mpr ⟨f.2, mem_reached_iff.mp hf⟩
    · intro hk
      obtain ⟨i, rest, rfl⟩ := hk.below
      obtain ⟨found, hfound⟩ := (kept_append_iff h).mp hk
      exact ⟨(i :: rest, found), mem_reached_iff.mpr hfound, rfl⟩

/-- What a function reads off the places kept, it reads off the nodes kept. -/
theorem map_placesBelow {β : Type} {document : List Node} {top : Place} {n : Node} {f : Place → β}
    {g : Node → β} (h : at? document top = some n)
    (hread : ∀ place m, at? document place = some m → f place = g m) :
    (placesBelow enter keep document top).map f = (found enter keep n.children).map g := by
  rw [placesBelow, h, Option.elim_some, found, List.map_map, List.map_map]
  refine List.map_congr_left fun p hp => hread (top ++ p.1) p.2 ?_
  have hlies := (mem_reached_iff.mp hp).lies
  obtain ⟨i, rest, -, hplace, -⟩ := mem_reached.mp hp
  rw [hplace] at hlies ⊢
  rw [at?_append h, hlies]

/-- The first node that a search of a whole document finds is at the first place of its kind. -/
theorem isFirst_of_head? {p : Node → Bool} {document : List Node} {f : Place × Node}
    (h : (reached (fun _ => true) p document).head? = some f) :
    IsFirst (fun place => ∃ n, at? document place = some n ∧ p n = true) f.1 where
  holds := by
    have hf := mem_reached_iff.mp (List.mem_of_mem_head? h)
    exact ⟨f.2, hf.lies, hf.kept⟩
  first := by
    rintro other ⟨n, hn, hp⟩ hbefore
    have hmem : (other, n) ∈ reached (fun _ => true) p document :=
      mem_reached_iff.mpr ⟨hn, hp, fun _ _ _ _ => rfl⟩
    have hordered := ordered_reached (fun _ => true) p document
    obtain ⟨rest, hrest⟩ := List.head?_eq_some_iff.mp h
    rw [hrest] at hmem hordered
    rcases List.mem_cons.mp hmem with rfl | hmem
    · exact Std.Irrefl.irrefl _ hbefore
    · exact Std.Asymm.asymm _ _ hbefore ((List.pairwise_cons.mp hordered).1 _ hmem)

end Concordance.Proofs.Html.Places
