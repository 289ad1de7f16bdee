/-!
Reading the arguments of a command.

An option is written as a letter after a dash or as a name after two dashes. Its value is the next argument,
or stands in the same one: after the letter, or after the name and an equals sign. Letters of options
without a value may be written together. No option is given twice, and nothing but options is an argument.
-/
namespace Concordance.Command

/-- One option a command knows, and whether a value belongs to it. -/
structure Parameter where
  name : String
  letter : Option Char := none
  valued : Bool := true
  deriving DecidableEq, Repr

inductive UsageError where
  | unknown (option : String)
  | unexpected (argument : String)
  | missingValue (name : String)
  | repeated (name : String)
  | missing (name : String)
  | conflict (first second : String)
  | notCount (name value : String)
  deriving DecidableEq, Repr

def UsageError.message : UsageError → String
  | unknown option => "unknown option '" ++ option ++ "'"
  | unexpected argument => "unexpected argument '" ++ argument ++ "'"
  | missingValue name => "option '--" ++ name ++ "' needs a value"
  | repeated name => "option '--" ++ name ++ "' is given twice"
  | missing name => "option '--" ++ name ++ "' is needed"
  | conflict first second => "options '--" ++ first ++ "' and '--" ++ second ++ "' exclude each other"
  | notCount name value => "option '--" ++ name ++ "' needs a count, not '" ++ value ++ "'"

abbrev Given := List (String × String)

/-- Some given options, and the one that still waits for its value. -/
structure Reading where
  given : Given
  waiting : Option Parameter := none

def withoutEquals (text : List Char) : String :=
  String.ofList (text.dropWhile (· = '='))

/-- The options of an argument with one dash. What follows the letter of an option that has a value is
that value. -/
def readLetters (known : List Parameter) : List Char → Except UsageError Reading
  | [] => .ok ⟨[], none⟩
  | letter :: rest =>
    match known.find? (fun p => p.letter = some letter) with
    | none => .error (.unknown (String.ofList ['-', letter]))
    | some p =>
      if p.valued then
        .ok (if rest = [] then ⟨[], some p⟩ else ⟨[(p.name, withoutEquals rest)], none⟩)
      else
        match readLetters known rest with
        | .error e => .error e
        | .ok reading => .ok { reading with given := (p.name, "") :: reading.given }

/-- The option of an argument with two dashes. What follows the equals sign after the name of an option
without a value does not count. -/
def readName (known : List Parameter) (text : List Char) : Except UsageError Reading :=
  let name := text.takeWhile (· ≠ '=')
  match known.find? (fun p => p.name.toList = name) with
  | none => .error (.unknown (String.ofList (['-', '-'] ++ name)))
  | some p =>
    match p.valued, text.dropWhile (· ≠ '=') with
    | false, _ => .ok ⟨[(p.name, "")], none⟩
    | true, [] => .ok ⟨[], some p⟩
    | true, value => .ok ⟨[(p.name, withoutEquals value)], none⟩

/-- Whether an argument can be the value of the option before it. A dash alone can. -/
def isValue (argument : String) : Bool :=
  argument = "-" || argument.toList.head? ≠ some '-'

def readArgument (known : List Parameter) (argument : String) : Except UsageError Reading :=
  let text := argument.toList.dropWhile (· = '-')
  if isValue argument then .error (.unexpected argument)
  else if ['-', '-'].isPrefixOf argument.toList then readName known text
  else readLetters known text

/-- The options of all arguments in order. After two dashes alone nothing may follow. -/
def readAll (known : List Parameter) : List String → Except UsageError Given
  | [] => .ok []
  | argument :: rest =>
    if argument = "--" then
      match rest with
      | [] => .ok []
      | extra :: _ => .error (.unexpected extra)
    else
      match readArgument known argument with
      | .error e => .error e
      | .ok ⟨given, none⟩ => (readAll known rest).map (given ++ ·)
      | .ok ⟨given, some p⟩ =>
        match rest with
        | [] => .error (.missingValue p.name)
        | value :: rest =>
          if isValue value then (readAll known rest).map (given ++ (p.name, value) :: ·)
          else .error (.missingValue p.name)

def repeated? : Given → Option String
  | [] => none
  | (name, _) :: rest => if (rest.lookup name).isSome then some name else repeated? rest

/-- The options of all arguments, each given once. -/
def read (known : List Parameter) (arguments : List String) : Except UsageError Given := do
  let given ← readAll known arguments
  match repeated? given with
  | some name => throw (.repeated name)
  | none => pure given

namespace Given

def require (given : Given) (name : String) : Except UsageError String :=
  match given.lookup name with
  | some value => .ok value
  | none => .error (.missing name)

def has (given : Given) (name : String) : Bool :=
  (given.lookup name).isSome

end Given

end Concordance.Command
