/-!
Tokens of the query language, and the errors a query can be refused with.

A query is a sequence of words, the keywords `AND`, `OR` and `NOT`, and parentheses. The end of the
query is not a token of its own: where a token may be missing, the type is `Option Token`.
-/
namespace Concordance.Query

/-- One token of a query. Keywords are written in capitals; any other run of characters is a word. -/
inductive Token where
  | word (text : String)
  | and
  | or
  | not
  | openParen
  | closeParen
  deriving DecidableEq, Repr

namespace Token

def text : Token → String
  | word w => w
  | and => "AND"
  | or => "OR"
  | not => "NOT"
  | openParen => "("
  | closeParen => ")"

/-- The token a run of word characters stands for: a keyword if it is one, and a word otherwise. -/
def ofRun (run : List Char) : Token :=
  if run = ['A', 'N', 'D'] then and
  else if run = ['O', 'R'] then or
  else if run = ['N', 'O', 'T'] then not
  else word (String.ofList run)

/-- How an error message names what was found: the token's characters, or the end of the query. -/
def describe : Option Token → String
  | some t => t.text
  | none => "end of input"

end Token

/-- What the grammar would have accepted at the point where it met something else. -/
inductive Expected where
  | operand
  | operator
  deriving DecidableEq, Repr

namespace Expected

def describe : Expected → String
  | operand => "WORD, NOT or ("
  | operator => "AND or OR"

end Expected

/-- Why a query is refused. What is unexpected is a token, or the end of the query, that the grammar has no
place for. -/
inductive Error where
  | emptyQuery
  | emptyParenthesis
  | unbalancedParenthesis
  | unexpectedToken (expected : Expected) (found : Option Token)
  deriving DecidableEq, Repr

namespace Error

def message : Error → String
  | emptyQuery => "Invalid query: empty query"
  | emptyParenthesis => "Invalid query: empty parenthesis"
  | unbalancedParenthesis => "Invalid query: unbalanced parenthesis"
  | unexpectedToken expected found =>
    "Invalid query: expected " ++ expected.describe ++ ", got " ++ Token.describe found

end Error

end Concordance.Query
