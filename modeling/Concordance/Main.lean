import Concordance.Command.Build
import Concordance.Command.Search

/-!
The two commands on the files of a system: `retriever` answers queries, `indexer` builds an index.
-/
namespace Concordance

def causeOf (e : IO.Error) : Files.Error :=
  let told (code : UInt32) (details : String) : Files.Error :=
    .other (details ++ " (os error " ++ toString code ++ ")")
  match e with
  | .noFileOrDirectory _ _ _ => .notFound
  | .inappropriateType _ code details => told code details
  | .permissionDenied _ code details => told code details
  | .invalidArgument _ code details => told code details
  | .resourceExhausted _ code details => told code details
  | .otherError code details => told code details
  | e => .other (toString e)

def attempt {a : Type} (action : IO a) : IO (Except Files.Error a) := do
  try return .ok (← action)
  catch e => return .error (causeOf e)

def readBytes (path : String) : IO Bytes := do
  return (← IO.FS.readBinFile path).toList

/-- A folder with everything below it. Of its files only page files are read, since nothing asks for the
others. The last folder listed is opened first, as in the search for page files, so that of several folders
that cannot be opened the same one is reported. -/
partial def readFolder (path : String) : IO (Except Files.Fault Files.Tree) := do
  match ← attempt (do (← IO.FS.realPath path).readDir) with
  | .error cause => return .error ⟨path, cause⟩
  | .ok found =>
    let mut entries := []
    for entry in found.reverse do
      let here := Files.child path entry.fileName
      if ← entry.path.isDir then
        match ← readFolder here with
        | .error fault => return .error fault
        | .ok tree => entries := (entry.fileName, tree) :: entries
      else if Page.isFileName entry.fileName then
        entries := (entry.fileName, Files.Tree.file (← attempt (readBytes here))) :: entries
    return .ok (.folder entries)

def systemFiles : Files.Access IO where
  read path := attempt (readBytes path)
  write path bytes := attempt (IO.FS.writeBinFile path ⟨bytes.toArray⟩)
  openFolder := readFolder

def systemVariables : IO (String → Option String) := do
  let maxResults ← IO.getEnv Settings.maxResultsVariable
  let snippetLength ← IO.getEnv Settings.snippetLengthVariable
  return fun name =>
    if name = Settings.maxResultsVariable then maxResults
    else if name = Settings.snippetLengthVariable then snippetLength
    else none

def report (outcome : Command.Outcome) : IO UInt32 := do
  for line in outcome.log do IO.eprintln line
  match outcome with
  | .refused e => IO.eprintln ("error: " ++ e.message)
  | _ => IO.print outcome.output
  return outcome.exitCode

def runCommand (arguments : List String) : IO UInt32 := do
  match arguments with
  | "retriever" :: rest => report (← Command.Search.run systemFiles (← systemVariables) rest)
  | "indexer" :: rest => report (← Command.Build.run systemFiles IO.monoNanosNow rest)
  | _ =>
    IO.eprintln "usage: retriever OPTIONS, or indexer OPTIONS"
    return 1

end Concordance

def main (arguments : List String) : IO UInt32 :=
  Concordance.runCommand arguments
