import Concordance.Batch
import Concordance.Command.Outcome
import Concordance.Json.Value
import Concordance.Snapshot.File

/-!
The command that answers queries from a snapshot: one query, or those in a file.
-/
namespace Concordance.Command.Search

inductive Task where
  | query (text : String)
  | file (path : String)
  deriving DecidableEq, Repr

structure Options where
  snapshot : String
  task : Task
  maxResults : Option Nat
  snippetLength : Option Nat
  json : Bool
  deriving DecidableEq, Repr

def parameters : List Parameter := [
  { name := "index-file", letter := some 'i' },
  { name := "query", letter := some 'q' },
  { name := "file", letter := some 'f' },
  { name := "max-results", letter := some 'n' },
  { name := "snippet-length" },
  { name := "json", valued := false },
  { name := "verbose", letter := some 'v', valued := false }]

def count (given : Given) (name : String) : Except UsageError (Option Nat) :=
  match given.lookup name with
  | none => .ok none
  | some value =>
    match Settings.count? value with
    | some n => .ok (some n)
    | none => .error (.notCount name value)

def Options.ofArguments (arguments : List String) : Except UsageError Options := do
  let given ← read parameters arguments
  let snapshot ← given.require "index-file"
  let task ← match given.lookup "query", given.lookup "file" with
    | some _, some _ => throw (.conflict "query" "file")
    | some text, none => pure (Task.query text)
    | none, some path => pure (Task.file path)
    | none, none => throw (.missing "query")
  let maxResults ← count given "max-results"
  let snippetLength ← count given "snippet-length"
  pure ⟨snapshot, task, maxResults, snippetLength, given.has "json"⟩

/-- The settings to search with: options win over variables. -/
def Options.settings (options : Options) (environment : String → Option String) :
    Settings × List Notice :=
  let (settings, notices) := Settings.ofVariables environment
  (⟨options.maxResults.getD settings.maxResults, options.snippetLength.getD settings.snippetLength⟩,
    notices)

def hitJson (hit : Hit) : Json.Value :=
  .object [("doc_id", .natural hit.id), ("url", .text hit.url), ("snippet", .text hit.snippet),
    ("score", .real hit.score)]

def answerJson (answer : LineAnswer) : Json.Value :=
  .object [("line", .natural answer.line), ("query", .text answer.query),
    match answer.outcome with
    | .ok hits => ("results", .list (hits.map hitJson))
    | .error e => ("error", .text e.message)]

/-- Some texts, each with a line feed after it. -/
def printed (lines : List String) : String :=
  String.join (lines.map (· ++ "\n"))

/-- The lines that answers are printed as: the query, and either the results or the error. -/
def answerLines (answer : LineAnswer) : List String :=
  ("#### " ++ answer.query ++ " ####") ::
    match answer.outcome with
    | .ok hits => hits.map Hit.display
    | .error e => [e.message]

def hitsOutput (json : Bool) (hits : List Hit) : String :=
  printed (if json then [(Json.Value.list (hits.map hitJson)).renderIndented] else hits.map Hit.display)

def answersOutput (json : Bool) (answers : List LineAnswer) : String :=
  printed (if json then [(Json.Value.list (answers.map answerJson)).renderIndented]
    else answers.flatMap answerLines)

def failure (text : String) : Notice := ⟨"Retriever", "main", text⟩

/-- Does what the options ask for. The snapshot is loaded before the query is looked at. -/
def execute {m : Type → Type} [Monad m] (files : Files.Access m) (environment : String → Option String)
    (options : Options) : m Outcome := do
  let (settings, warnings) := options.settings environment
  match ← Snapshot.load files options.snapshot with
  | .error e =>
    return .failed (failure ("cannot load index '" ++ options.snapshot ++ "': " ++ e.fullMessage)) warnings
  | .ok index =>
    match options.task with
    | .query text =>
      match index.searchText settings text with
      | .error e => return .failed (failure e.message) warnings
      | .ok hits => return .finished (hitsOutput options.json hits) warnings
    | .file path =>
      match ← files.readText path with
      | .error e =>
        return .failed (failure ("cannot read queries from '" ++ path ++ "': " ++ e.message)) warnings
      | .ok text =>
        let answers := index.searchFile settings text
        return .finished (answersOutput options.json answers)
          (warnings ++ answers.filterMap LineAnswer.notice?)

def run {m : Type → Type} [Monad m] (files : Files.Access m) (environment : String → Option String)
    (arguments : List String) : m Outcome := do
  match Options.ofArguments arguments with
  | .error e => return .refused e
  | .ok options => execute files environment options

end Concordance.Command.Search
