import Concordance.Html.Builder

/-!
Formatting elements across misplaced tags.

A formatting element whose end tag has not come is opened again in the next paragraph. Where its end
tag comes inside a block that was opened later, the block is moved out and gets the formatting inside.
-/
namespace Concordance.Html.Builder

/-- The formatting elements after the last marker, last one first. -/
def formattingSinceMarker (b : Builder) : List (Nat × Tag) :=
  go b.formatting
where
  go : List Formatting → List (Nat × Tag)
    | .element id t :: rest => (id, t) :: go rest
    | _ => []

def pushMarker (b : Builder) : Builder := { b with formatting := .marker :: b.formatting }

def clearToMarker (b : Builder) : Builder :=
  { b with formatting := (b.formatting.dropWhile (· ≠ .marker)).drop 1 }

def isEntryOf (id : Nat) : Formatting → Bool
  | .marker => false
  | .element other _ => other = id

def isFormatting (b : Builder) (id : Nat) : Bool := b.formatting.any (isEntryOf id)

def forgetFormatting (b : Builder) (id : Nat) : Builder :=
  { b with formatting := b.formatting.eraseP (isEntryOf id) }

/-- Whether two tags have the same name and attributes, in any order. -/
def sameTag (s t : Tag) : Bool :=
  s.name = t.name && s.attributes.length = t.attributes.length && s.attributes.all t.attributes.contains

/-- Without the earliest of three or more equal formatting elements after the last marker. -/
def limitEqual (b : Builder) (t : Tag) : Builder :=
  let equal := b.formattingSinceMarker.filter fun entry => sameTag t entry.2
  match equal.getLast? with
  | some (id, _) => if 3 ≤ equal.length then b.forgetFormatting id else b
  | none => b

def openFormatting (b : Builder) (t : Tag) : Builder :=
  let (b, id) := (b.limitEqual t).openIn .html t
  { b with formatting := .element id t :: b.formatting }

def isSettled (b : Builder) : Formatting → Bool
  | .marker => true
  | .element id _ => b.stack.contains id

/-- Opens formatting elements again. They stand with the first one first; the result has the last one
first. -/
def openAll (b : Builder) : List Formatting → List Formatting → Builder × List Formatting
  | [], reopened => (b, reopened)
  | .marker :: rest, reopened => openAll b rest (.marker :: reopened)
  | .element _ t :: rest, reopened =>
    let (b, id) := b.openIn .html t
    openAll b rest (.element id t :: reopened)

/-- Opens the formatting elements again that are no longer open. -/
def reopen (b : Builder) : Builder :=
  let pending := b.formatting.takeWhile (fun entry => !b.isSettled entry)
  if pending.isEmpty then b
  else
    let settled := b.formatting.drop pending.length
    let (b, reopened) := b.openAll pending.reverse []
    { b with formatting := reopened ++ settled }

/-- Closes an element by an end tag that has no rules of its own. An element with rules of its own
keeps those around it open. -/
def closeNamed (b : Builder) (name : String) : Builder :=
  go b.stack
where
  go : List Nat → Builder
    | [] => b
    | id :: rest =>
      if (b.cell id).isHtml name then { b with stack := rest }
      else if (b.cell id).isSpecial then b
      else go rest

/-- A walk from a block up to the formatting element around it. The next element takes in `last`, and those in
`kept`, last one first in reverse, stay open. The new formatting element is listed after `bookmark`, or in the
place of the old one. -/
structure Lifting where
  b : Builder
  last : Nat
  bookmark : Option Nat := none
  kept : List Nat := []
  steps : Nat := 0

/-- One element on the way. The first three that are formatting elements are made anew; all others are
closed. -/
def Lifting.step (block : Nat) (l : Lifting) (id : Nat) : Lifting :=
  let steps := l.steps + 1
  match l.b.formatting.find? (isEntryOf id) with
  | some (.element _ t) =>
    if 3 < steps then { l with b := l.b.forgetFormatting id, steps }
    else
      let (arena, fresh) := l.b.arena.create .html t
      let arena := (arena.detach l.last).append fresh l.last
      let formatting := l.b.formatting.map fun entry => if isEntryOf id entry then .element fresh t else entry
      { b := { l.b with arena, formatting }, last := fresh,
        bookmark := if l.last = block then some fresh else l.bookmark, kept := fresh :: l.kept, steps }
  | _ => { l with steps }

/-- Entries with a new one just after that of an element, or in its place. -/
def placeEntry (bookmark : Option Nat) (old : Nat) (entry : Formatting) (entries : List Formatting) :
    List Formatting :=
  match bookmark with
  | none => entries.map fun other => if isEntryOf old other then entry else other
  | some previous =>
    (entries.flatMap fun other => if isEntryOf previous other then [entry, other] else [other]).eraseP
      (isEntryOf old)

/-- Moves a block out of the formatting element around it. `newer` are the open elements inside the block,
`between` those between the two, `outer` those around both. -/
def lift (b : Builder) (id : Nat) (t : Tag) (newer : List Nat) (block : Nat) (between outer : List Nat) : Builder :=
  let l := between.foldl (Lifting.step block) { b, last := block }
  let b := { l.b with arena := l.b.arena.detach l.last }
  let b := b.attach (outer.headD 0) l.last
  let (arena, fresh) := b.arena.create .html t
  let arena := (arena.moveChildren block fresh).append block fresh
  { b with
    arena
    formatting := placeEntry l.bookmark id (.element fresh t) b.formatting
    stack := newer ++ fresh :: block :: l.kept.reverse ++ outer }

inductive Attempt where
  | settled (b : Builder)
  | moved (b : Builder)

/-- Closes the last formatting element of a name, or moves the outermost block in it out. -/
def closeOnce (b : Builder) (name : String) : Attempt :=
  match b.formattingSinceMarker.find? (fun entry => entry.2.name = name) with
  | none => .settled (b.closeNamed name)
  | some (id, t) =>
    if !b.stack.contains id then .settled (b.forgetFormatting id)
    else if !b.inScope Cell.bounds (· = id) then .settled b
    else
      let inner := b.stack.takeWhile (· ≠ id)
      let outer := (b.stack.dropWhile (· ≠ id)).drop 1
      let betweenRev := inner.reverse.takeWhile fun other => !(b.cell other).isSpecial
      match inner.reverse.drop betweenRev.length with
      | [] => .settled ({ b with stack := outer }.forgetFormatting id)
      | block :: newerRev => .moved (b.lift id t newerRev.reverse block betweenRev.reverse outer)

def closeWithin (name : String) : Nat → Builder → Builder
  | 0, b => b
  | attempts + 1, b =>
    match b.closeOnce name with
    | .settled b => b
    | .moved b => closeWithin name attempts b

def closeFormatting (b : Builder) (name : String) : Builder :=
  if b.currentIs name && !b.isFormatting b.current then b.pop
  else closeWithin name 8 b

/-- A link ends the one before it, as links do not stand in each other. -/
def endLink (b : Builder) : Builder :=
  match b.formattingSinceMarker.find? (fun entry => (b.cell entry.1).isHtml "a") with
  | none => b
  | some (id, _) => ((b.closeFormatting "a").forgetFormatting id).forget id

end Concordance.Html.Builder
