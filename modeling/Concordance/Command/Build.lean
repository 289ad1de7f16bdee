import Concordance.Command.Outcome
import Concordance.Intake

/-!
The command that indexes a folder of pages and keeps the index as a snapshot.
-/
namespace Concordance.Command.Build

structure Options where
  folder : String
  output : String
  deriving DecidableEq, Repr

def parameters : List Parameter := [
  { name := "input-folder", letter := some 'i' },
  { name := "output-name", letter := some 'o' },
  { name := "verbose", letter := some 'v', valued := false }]

def Options.ofArguments (arguments : List String) : Except UsageError Options := do
  let given ← read parameters arguments
  pure ⟨← given.require "input-folder", ← given.require "output-name"⟩

/-- Does what the options ask for. The clock counts nanoseconds. -/
def execute {m : Type → Type} [Monad m] (files : Files.Access m) (clock : m Nat) (options : Options) :
    m Outcome := do
  let started ← clock
  let ⟨result, warnings⟩ ← Intake.run files options.folder options.output
  match result with
  | .error e => return .failed ⟨"Indexer", options.folder, e.message⟩ warnings
  | .ok stats =>
    let stats := { stats with nanoseconds := (← clock) - started }
    return .finished (stats.display ++ "\n") warnings

def run {m : Type → Type} [Monad m] (files : Files.Access m) (clock : m Nat) (arguments : List String) :
    m Outcome := do
  match Options.ofArguments arguments with
  | .error e => return .refused e
  | .ok options => execute files clock options

end Concordance.Command.Build
