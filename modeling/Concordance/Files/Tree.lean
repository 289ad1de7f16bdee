import Concordance.Files.Path

/-!
Trees of files and folders.

A place in a tree is the list of the names on the way to it. Paths are looked up from the left: each name
but the last has to be that of a folder. Names are texts; a name that is not UTF-8 stands in no tree.
-/
namespace Concordance.Files

/-- A file with its bytes, or with the cause that they cannot be had; or a folder with its entries, in
the order in which they are listed. -/
inductive Tree where
  | file (content : Except Error Bytes)
  | folder (entries : List (String × Tree))

structure Fault where
  path : String
  cause : Error
  deriving DecidableEq, Repr

namespace Tree

def empty : Tree := .folder []

def get? : Tree → List String → Option Tree
  | tree, [] => some tree
  | .file _, _ :: _ => none
  | .folder entries, name :: place =>
    match entries.lookup name with
    | some tree => tree.get? place
    | none => none

/-- The tree with something new at a place. The folders on the way are made. -/
def put (new : Tree) : Tree → List String → Tree
  | _, [] => new
  | .file _, name :: place => .folder [(name, put new empty place)]
  | .folder entries, name :: place =>
    match entries.lookup name with
    | some old =>
      let changed := put new old place
      .folder (entries.map fun entry => if entry.1 = name then (name, changed) else entry)
    | none => .folder (entries ++ [(name, put new empty place)])

/-- The tree with a folder at a place. One that is there already stays as it is. -/
def addFolder (tree : Tree) (place : List String) : Tree :=
  match tree.get? place with
  | some (.folder _) => tree
  | _ => put empty tree place

/-- The place that names lead to from a place. The top has nothing above it and is reached instead. -/
def locate (tree : Tree) : List String → List String → Except Error (List String)
  | place, [] => .ok place
  | place, name :: rest =>
    match tree.get? place with
    | none => .error .notFound
    | some (.file _) => .error .notFolder
    | some (.folder entries) =>
      if staysIn name then locate tree place rest
      else if name = ".." then locate tree place.dropLast rest
      else if nameLimit < name.utf8ByteSize then .error .nameTooLong
      else if (entries.lookup name).isNone then .error .notFound
      else locate tree (place ++ [name]) rest

def find (tree : Tree) (path : String) : Except Error Tree :=
  match pathFault? path with
  | some fault => .error fault
  | none =>
    match tree.locate [] (names path) with
    | .error e => .error e
    | .ok place =>
      match tree.get? place with
      | some found => .ok found
      | none => .error .notFound

def read (tree : Tree) (path : String) : Except Error Bytes :=
  match tree.find path with
  | .error e => .error e
  | .ok (.file content) => content
  | .ok (.folder _) => .error .isFolder

def openFolder (tree : Tree) (path : String) : Except Fault Tree :=
  match tree.find path with
  | .error e => .error ⟨path, e⟩
  | .ok (.file _) => .error ⟨path, .notFolder⟩
  | .ok (.folder entries) => .ok (.folder entries)

def writeAt (tree : Tree) (folder : List String) (name : String) (bytes : Bytes) : Except Error Tree :=
  match tree.get? folder with
  | none => .error .notFound
  | some (.file _) => .error .notFolder
  | some (.folder entries) =>
    if staysIn name ∨ name = ".." then .error .isFolder
    else if nameLimit < name.utf8ByteSize then .error .nameTooLong
    else
      match entries.lookup name with
      | some (.folder _) => .error .isFolder
      | _ => .ok (put (.file (.ok bytes)) tree (folder ++ [name]))

/-- The tree with bytes in the file at a path. Its folder has to be there, and a path with a slash at the
end is no file's. -/
def write (tree : Tree) (path : String) (bytes : Bytes) : Except Error Tree :=
  match pathFault? path with
  | some fault => .error fault
  | none =>
    let ending := (names path).reverse
    let folder := (ending.dropWhile (· = "")).tail.reverse
    match tree.locate [] folder with
    | .error e => .error e
    | .ok place => tree.writeAt place (ending.headD "") bytes

end Tree

mutual

def Tree.folderCount : Tree → Nat
  | .file _ => 0
  | .folder entries => 1 + folderCountIn entries

def folderCountIn : List (String × Tree) → Nat
  | [] => 0
  | (_, tree) :: rest => tree.folderCount + folderCountIn rest

end

end Concordance.Files
