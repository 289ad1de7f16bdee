import Concordance.Files.Tree

/-!
Ways to reach files.

What reads and writes files takes the way as an argument, so that it can work on a tree as well as on the
files of a system.
-/
namespace Concordance.Files

/-- How the files at paths are reached in a monad. A folder is had with everything below it. -/
structure Access (m : Type → Type) where
  read : String → m (Except Error Bytes)
  write : String → Bytes → m (Except Error Unit)
  openFolder : String → m (Except Fault Tree)

/-- Works on a tree that is kept as a state. A write that fails leaves it as it is. -/
def Access.onTree : Access (StateM Tree) where
  read path := do return (← get).read path
  write path bytes := do
    match (← get).write path bytes with
    | .error e => return .error e
    | .ok tree => set tree; return .ok ()
  openFolder path := do return (← get).openFolder path

def Access.readText {m : Type → Type} [Monad m] (files : Access m) (path : String) :
    m (Except Error String) := do
  match ← files.read path with
  | .error e => return .error e
  | .ok bytes =>
    match Text.ofUtf8? bytes with
    | some text => return .ok text
    | none => return .error .notText

end Concordance.Files
