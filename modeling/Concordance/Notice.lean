/-!
What a run reports beside its results: warnings about what it passed over, and the error it stopped at.
-/
namespace Concordance

/-- One report, with the part of the program it comes from and what it is about. -/
structure Notice where
  source : String
  about : String
  text : String
  deriving DecidableEq, Repr

namespace Notice

def message (n : Notice) : String :=
  "[" ++ n.source ++ "][" ++ n.about ++ "] " ++ n.text

end Notice

end Concordance
