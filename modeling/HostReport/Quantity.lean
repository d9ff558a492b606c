import HostReport.Fault
import HostReport.Number.Binary64

/-!
# Quantities

Figures that a host reports either as whole numbers of any size or as doubles. Whole numbers are
added and subtracted exactly. Where a double takes part, a whole number counts as the double nearest
to it, and one that exceeds every double is a fault.
-/

namespace HostReport

/-- A whole number or a double. -/
inductive Quantity where
  | whole (n : Int)
  | double (x : Binary64)
  deriving DecidableEq

instance : Coe Int Quantity := ⟨.whole⟩

instance : Coe Binary64 Quantity := ⟨.double⟩

instance (n : Nat) : OfNat Quantity n := ⟨.whole n⟩

namespace Quantity

/-- The double nearest to a figure. -/
def toDouble : Quantity → Except Fault Binary64
  | .whole n => (Binary64.ofInt? n).elim (.error .outOfRange) .ok
  | .double x => .ok x

/-- The sum of two figures. -/
def add : Quantity → Quantity → Except Fault Quantity
  | .whole m, .whole n => .ok (.whole (m + n))
  | q, r => do return .double ((← q.toDouble) + (← r.toDouble))

/-- The difference of two figures. -/
def sub : Quantity → Quantity → Except Fault Quantity
  | .whole m, .whole n => .ok (.whole (m - n))
  | q, r => do return .double ((← q.toDouble) - (← r.toDouble))

/-- Whether a figure is zero, of either sign. -/
def isZero : Quantity → Bool
  | .whole n => n == 0
  | .double x => x.isZero

/-- Whether a figure is greater than zero. -/
def isPositive : Quantity → Bool
  | .whole n => 0 < n
  | .double x => Binary64.lt 0 x

end Quantity

end HostReport
