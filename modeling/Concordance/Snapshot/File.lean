import Concordance.Files.Access
import Concordance.Snapshot.Codec

/-!
Snapshots in files.
-/
namespace Concordance.Snapshot

inductive FileError where
  | file (path : String) (cause : Files.Error)
  | snapshot (cause : Error)

namespace FileError

def message : FileError → String
  | file path cause => "Failed to read index snapshot '" ++ path ++ "': " ++ cause.message
  | snapshot cause => cause.message

/-- The message with that of the cause below it, if there is one. -/
def fullMessage (e : FileError) : String :=
  match e with
  | file _ cause => e.message ++ ": " ++ cause.message
  | snapshot (.payload fault) => e.message ++ ": " ++ fault.message
  | snapshot _ => e.message

end FileError

variable {m : Type → Type} [Monad m]

def load (files : Files.Access m) (path : String) : m (Except FileError Index) := do
  match ← files.read path with
  | .error cause => return .error (.file path cause)
  | .ok bytes => return (decode bytes).mapError .snapshot

def save (files : Files.Access m) (index : Index) (path : String) : m (Except FileError Unit) := do
  match encode index with
  | .error cause => return .error (.snapshot cause)
  | .ok bytes => return (← files.write path bytes).mapError (.file path)

end Concordance.Snapshot
