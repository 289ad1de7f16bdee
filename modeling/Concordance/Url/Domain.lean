import Std.Data.HashMap
import Concordance.Text.Composed
import Concordance.Url.Domain.DirectionData
import Concordance.Url.Domain.JoiningData
import Concordance.Url.Domain.MappingData
import Concordance.Url.Punycode

/-!
Domain names.

Names that look the same are unified: letters are set in lowercase, variants of characters are mapped to
the plain ones, and the canonical spelling is taken. Each label between dots is then checked and written
in ASCII.
-/
namespace Concordance.Url.Domain

def mapped : Std.HashMap Nat (List Char) :=
  (mappedLines.flatMap fun line => line.toList.splitOn ' ').foldl (fun table item =>
    match Text.hexadecimals item with
    | c :: target => table.insert c.toNat target
    | [] => table) ∅

def mappedInRun? (n : Nat) : List (Nat × Nat × Nat × Nat) → Option Char
  | [] => none
  | (first, count, step, target) :: rest =>
    if first ≤ n ∧ n < first + count * step ∧ (n - first) % step = 0 then
      some (Char.ofNat (target + (n - first)))
    else mappedInRun? n rest

/-- What a character maps to; nothing if no domain name may hold it. -/
def unified? (c : Char) : Option (List Char) :=
  if c.toNat < 0x80 then some [c.toLower]
  else if refused.contains c then none
  else if dropped.contains c then some []
  else match mappedInRun? c.toNat mappedRuns, mapped[c.toNat]? with
    | some target, _ => some [target]
    | none, some target => some target
    | none, none => some [c]

def isAscii (text : List Char) : Bool :=
  text.all (·.toNat < 0x80)

def unify? (name : List Char) : Option (List Char) :=
  if isAscii name then some (name.map Char.toLower)
  else (name.mapM unified?).map fun parts => Text.composed parts.flatten

def isForbidden (c : Char) : Bool :=
  c.toNat ≤ 0x20 || c = '\x7f' ||
    ['%', '#', '/', ':', '<', '>', '?', '@', '[', '\\', ']', '^', '|'].contains c

/-- A joiner between letters is only allowed where scripts need it: after a mark that suppresses a
vowel, or, for one that prevents joining, between letters that would join. -/
def joinersAllowed : List Char → List Char → Bool
  | _, [] => true
  | before, c :: rest =>
    let afterVirama := before.head?.any (Text.combiningClass · = 9)
    let between :=
      ((before.dropWhile transparent.contains).head?.any fun d => leftJoining.contains d || dualJoining.contains d) &&
      ((rest.dropWhile transparent.contains).head?.any fun d => rightJoining.contains d || dualJoining.contains d)
    let ok :=
      if c = '\u200C' then afterVirama || between
      else if c = '\u200D' then afterVirama
      else true
    ok && joinersAllowed (c :: before) rest

/-- How a character takes part in texts of mixed direction. -/
inductive Direction where
  | left
  | right
  | arabicNumber
  | europeanNumber
  | nonspacing
  | neutral
  | other
  deriving DecidableEq, Repr

def directionOf (c : Char) : Direction :=
  if rightToLeft.contains c || arabicLetter.contains c then .right
  else if arabicNumber.contains c then .arabicNumber
  else if europeanNumber.contains c then .europeanNumber
  else if nonspacing.contains c then .nonspacing
  else if [numberSign, numberSeparator, numberTerminator, otherNeutral, boundaryNeutral].any (·.contains c) then
    .neutral
  else if directional.contains c then .other
  else .left

/-- Whether a label makes its name one of mixed direction. -/
def isMixed (label : List Char) : Bool :=
  !isAscii label && label.any fun c => [.right, .arabicNumber].contains (directionOf c)

/-- Whether a label in a name of mixed direction has one direction that can be told from both ends. -/
def hasDirection (label : List Char) : Bool :=
  let directions := label.map directionOf
  let last := (directions.reverse.dropWhile (· = .nonspacing)).head?
  match directions with
  | [] => true
  | .right :: _ =>
    directions.all (fun d => d ≠ .left && d ≠ .other) &&
      (last.any fun d => [.right, .arabicNumber, .europeanNumber].contains d) &&
      !(directions.contains .arabicNumber && directions.contains .europeanNumber)
  | .left :: _ =>
    directions.all (fun d => [.left, .europeanNumber, .neutral, .nonspacing].contains d) &&
      (last.any fun d => d = .left || d = .europeanNumber)
  | _ => false

def encodedStart : List Char := "xn--".toList

def isAllowed (label : List Char) : Bool :=
  !label.any isForbidden && !(label.head?.any Text.marks.contains) && joinersAllowed [] label

/-- The word that a label stands for. An encoded label has to be the encoding of a word that needs it
and is unified already. -/
def read? (label : List Char) : Option (List Char) :=
  let word? := if encodedStart.isPrefixOf label then
      if isAscii label then
        (Punycode.decode? (label.drop encodedStart.length)).filter fun word =>
          !isAscii word && !encodedStart.isPrefixOf word && unify? word = some word
      else none
    else some label
  word?.filter isAllowed

def write (word : List Char) : List Char :=
  if isAscii word then word else encodedStart ++ Punycode.encode word

/-- A domain name in ASCII; nothing if it is not allowed. -/
def toAscii? (name : List Char) : Option (List Char) := do
  let words ← ((← unify? name).splitOn '.').mapM read?
  if words.any isMixed && !words.all hasDirection then none
  else some (List.intercalate ['.'] (words.map write))

end Concordance.Url.Domain
