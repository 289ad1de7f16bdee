import Concordance.Url.Percent

/-!
Paths of addresses.

A path is a list of segments. The segments `.` and `..`, in any spelling, are resolved when a path is
read. In addresses of files the first segment may be the letter of a drive, which no `..` leaves.
-/
namespace Concordance.Url

inductive Path where
  | plain (text : String)
  | segments (all : List String)
  deriving DecidableEq, Repr

namespace Path

def render : Path → String
  | plain text => text
  | segments [] => ""
  | segments all => "/" ++ String.intercalate "/" all

/-- The letter of a drive, followed by a colon or a bar. -/
def isDrive (segment : List Char) : Bool :=
  match segment with
  | [letter, mark] => letter.isAlpha && (mark = ':' || mark = '|')
  | _ => false

/-- Whether a segment stays where `..` comes after it. -/
def stays (segment : List Char) : Bool :=
  match segment with
  | letter :: mark :: '\\' :: _ => isDrive [letter, mark]
  | _ => isDrive segment

/-- A segment with the encoded dots in it read. -/
def dots : List Char → List Char
  | '%' :: '2' :: 'e' :: rest | '%' :: '2' :: 'E' :: rest => '.' :: dots rest
  | c :: rest => c :: dots rest
  | [] => []

def isCurrent (segment : List Char) : Bool := dots segment = ['.']

def isParent (segment : List Char) : Bool := dots segment = ['.', '.']

/-- A path that is being read: its segments, last one first, and whether it begins with a drive. -/
structure Walk where
  segments : List (List Char) := []
  hasDrive : Bool := false

def Walk.step (inFile : Bool) (w : Walk) (segment : List Char) : Walk :=
  if isParent segment then
    if (w.segments.head?.any stays) then w else { w with segments := w.segments.tail }
  else if isCurrent segment then w
  else if inFile && w.segments.isEmpty && isDrive segment then
    { segments := [segment.take 1 ++ [':']], hasDrive := true }
  else { w with segments := segment :: w.segments }

/-- Walks along the segments of a path. After a last `.` or `..` the path ends in a slash. -/
def walk (inFile : Bool) : Walk → List (List Char) → Walk
  | w, [] => w
  | w, [last] =>
    let w := w.step inFile last
    if isCurrent last || isParent last then { w with segments := [] :: w.segments } else w
  | w, segment :: rest => walk inFile (w.step inFile segment) rest

/-- The segments of a text. Where backslashes count, they separate as slashes do. -/
def split (backslashes : Bool) (text : List Char) : List (List Char) :=
  text.splitOnP fun c => c = '/' || (backslashes && c = '\\')

def withoutSlash (backslashes : Bool) (text : List Char) : List Char :=
  match text with
  | '/' :: rest => rest
  | '\\' :: rest => if backslashes then rest else text
  | _ => text

def encode (all : List (List Char)) : Path :=
  segments (all.map (Percent.encode Percent.inPath))

def read (backslashes : Bool) (text : List Char) : Path :=
  encode (walk false {} (split backslashes text)).segments.reverse

/-- The path of a file, which begins with no empty segments, and whether it begins with a drive. -/
def readFile (text : List Char) : Path × Bool :=
  let w := walk true {} (split true text)
  match w.segments.reverse.dropWhile List.isEmpty with
  | [] => (encode [[]], w.hasDrive)
  | all => (encode all, w.hasDrive)

end Path

end Concordance.Url
