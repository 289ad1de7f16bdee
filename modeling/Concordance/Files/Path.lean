import Concordance.Text.Utf8

/-!
Paths: names with slashes between them.

An empty name and a single dot stand for the folder reached so far, and two dots for the folder above it.
All paths start at one folder, the top.
-/
namespace Concordance.Files

/-- Why a file or a folder cannot be used. Any other cause comes in the words of the system. -/
inductive Error where
  | notFound
  | isFolder
  | notFolder
  | nameTooLong
  | nulInName
  | notText
  | other (text : String)
  deriving DecidableEq, Repr

def Error.message : Error → String
  | notFound => "No such file or directory (os error 2)"
  | isFolder => "Is a directory (os error 21)"
  | notFolder => "Not a directory (os error 20)"
  | nameTooLong => "File name too long (os error 36)"
  | nulInName => "file name contained an unexpected NUL byte"
  | notText => "stream did not contain valid UTF-8"
  | other text => text

def names (path : String) : List String :=
  (path.toList.splitOnP (· == '/')).map String.ofList

/-- Whether a name stands for the folder reached so far. -/
def staysIn (name : String) : Bool :=
  name = "" || name = "."

/-- The path of something in a folder. A folder that is written with a slash at its end gets no other one. -/
def child (folder name : String) : String :=
  if folder = "" ∨ folder.toList.getLast? = some '/' then folder ++ name else folder ++ "/" ++ name

def below (folder : String) (place : List String) : String :=
  place.foldl child folder

/-- Whether the first of two places may stand before the second: the first names that differ decide, and a
folder stands before everything in it. -/
def placeBefore : List String → List String → Bool
  | [], _ => true
  | _ :: _, [] => false
  | a :: place, b :: other => decide (a < b) || (decide (a = b) && placeBefore place other)

/-- The most bytes of a name. -/
def nameLimit : Nat := 255

def pathLimit : Nat := 4095

/-- What is wrong with a path before anything is looked up. No path starts outside the top. -/
def pathFault? (path : String) : Option Error :=
  if path.toList.contains '\x00' then some .nulInName
  else if path = "" then some .notFound
  else if pathLimit < path.utf8ByteSize then some .nameTooLong
  else if path.toList.head? = some '/' then some .notFound
  else none

end Concordance.Files
