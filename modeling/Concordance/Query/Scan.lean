import Concordance.Query.Lexer

/-!
Checking a query in one pass, without building a tree.

The scan keeps what may come next and the number of open groups. It finds the same fault as the parser,
at the same token.
-/
namespace Concordance.Query

namespace Scan

/-- What may come next: anything at the start of a query or of a group (`fresh`), an operand after an operator
or `NOT` (`need`), and no operand after another (`complete`). -/
inductive Mode where
  | fresh
  | need
  | complete
  deriving DecidableEq, Repr

/-- What the end of the tokens means. -/
def finish : Mode → Nat → Except Error Unit
  | .need, _ => .error (.unexpectedToken .operand none)
  | .fresh, 0 => .error .emptyQuery
  | .complete, 0 => .ok ()
  | _, _ + 1 => .error .unbalancedParenthesis

/-- What one token does to the mode and the number of open groups. -/
def next (mode : Mode) (depth : Nat) (t : Token) : Except Error (Mode × Nat) :=
  match mode with
  | .complete =>
    match t with
    | .and | .or => .ok (.need, depth)
    | .closeParen => if depth = 0 then .error .unbalancedParenthesis else .ok (.complete, depth - 1)
    | t => .error (.unexpectedToken .operator (some t))
  | _ =>
    match t with
    | .word _ => .ok (.complete, depth)
    | .not => .ok (.need, depth)
    | .openParen => .ok (.fresh, depth + 1)
    | .closeParen =>
      if mode = .need then .error (.unexpectedToken .operand (some .closeParen))
      else if depth = 0 then .error .unbalancedParenthesis
      else .error .emptyParenthesis
    | t => .error (.unexpectedToken .operand (some t))

def run : Mode → Nat → List Token → Except Error Unit
  | mode, depth, [] => finish mode depth
  | mode, depth, t :: rest =>
    match next mode depth t with
    | .error e => .error e
    | .ok (mode', depth') => run mode' depth' rest

end Scan

/-- The fault of a list of tokens, if it has one. -/
def scan (tokens : List Token) : Except Error Unit :=
  Scan.run .fresh 0 tokens

end Concordance.Query
