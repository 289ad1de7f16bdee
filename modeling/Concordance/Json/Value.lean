import Concordance.Json.Quoted

/-!
Writing JSON text, on one line or indented.
-/
namespace Concordance.Json

/-- What is written. Members of an object keep their order. -/
inductive Value where
  | null
  | natural (n : Nat)
  | real (x : Float)
  | text (s : String)
  | list (items : List Value)
  | object (members : List (String × Value))

namespace Value

/-- The text of a double; the infinities have none and become `null`. -/
def realText (x : Float) : List Char :=
  match Decimal.exact.finite? x with
  | some digits => digits.toList
  | none => ['n', 'u', 'l', 'l']

def joined (between : List Char) : List (List Char) → List Char
  | [] => []
  | [piece] => piece
  | piece :: rest => piece ++ between ++ joined between rest

mutual

def compact : Value → List Char
  | null => ['n', 'u', 'l', 'l']
  | natural n => Nat.toDigits 10 n
  | real x => realText x
  | text s => quoted s.toList
  | list items => '[' :: (joined [','] (compactItems items) ++ [']'])
  | object members => '\x7b' :: (joined [','] (compactMembers members) ++ ['\x7d'])

def compactItems : List Value → List (List Char)
  | [] => []
  | item :: rest => compact item :: compactItems rest

def compactMembers : List (String × Value) → List (List Char)
  | [] => []
  | (key, value) :: rest =>
    (quoted key.toList ++ ':' :: compact value) :: compactMembers rest

end

def newline (depth : Nat) : List Char :=
  '\n' :: List.replicate (2 * depth) ' '

/-- Pieces on lines of their own inside a pair of brackets; nothing between the brackets if there are
no pieces. -/
def bracketed (depth : Nat) (opening closing : Char) (pieces : List (List Char)) : List Char :=
  if pieces.isEmpty then [opening, closing]
  else [opening] ++ newline (depth + 1) ++ joined (',' :: newline (depth + 1)) pieces ++
    newline depth ++ [closing]

mutual

/-- The text of a value on several lines, inside `depth` brackets. -/
def indented (depth : Nat) : Value → List Char
  | list items => bracketed depth '[' ']' (indentedItems (depth + 1) items)
  | object members => bracketed depth '\x7b' '\x7d' (indentedMembers (depth + 1) members)
  | value => value.compact

def indentedItems (depth : Nat) : List Value → List (List Char)
  | [] => []
  | item :: rest => indented depth item :: indentedItems depth rest

def indentedMembers (depth : Nat) : List (String × Value) → List (List Char)
  | [] => []
  | (key, value) :: rest =>
    (quoted key.toList ++ [':', ' '] ++ indented depth value) :: indentedMembers depth rest

end

def render (value : Value) : String :=
  String.ofList value.compact

def renderIndented (value : Value) : String :=
  String.ofList (value.indented 0)

end Value

end Concordance.Json
