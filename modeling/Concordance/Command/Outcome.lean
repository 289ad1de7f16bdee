import Concordance.Command.Arguments
import Concordance.Notice

/-!
What a command leaves behind: its output, its reports, and whether it succeeded.
-/
namespace Concordance.Command

inductive Outcome where
  | refused (error : UsageError)
  | finished (output : String) (warnings : List Notice)
  | failed (error : Notice) (warnings : List Notice)

/-- One character of a report. Those that a terminal obeys are written out. -/
def visible (c : Char) : List Char :=
  if c = '\x07' ∨ c = '\x08' ∨ c = '\x0c' ∨ c = '\x1b' ∨ c = '\x7f' then
    ['\\', 'x', Nat.digitChar (c.toNat / 16), Nat.digitChar (c.toNat % 16)]
  else if 0x80 ≤ c.toNat ∧ c.toNat ≤ 0x9f then
    ['\\', 'u', '\x7b'] ++ Nat.toDigits 16 c.toNat ++ ['\x7d']
  else [c]

def logged (level : String) (notice : Notice) : String :=
  level ++ " " ++ String.ofList (notice.message.toList.flatMap visible)

namespace Outcome

def exitCode : Outcome → UInt32
  | finished _ _ => 0
  | _ => 1

def output : Outcome → String
  | finished output _ => output
  | _ => ""

def log : Outcome → List String
  | refused _ => []
  | finished _ warnings => warnings.map (logged "WARN")
  | failed error warnings => warnings.map (logged "WARN") ++ [logged "ERROR" error]

end Outcome

end Concordance.Command
