import HostReport.Fault
import HostReport.Json.Basic
import HostReport.Number.Numeral

/-!
# Whole numbers

Where a whole number is asked for, a double counts by its integer part and a text by the numeral it
holds. What is no number is malformed, and what is infinite is out of range.
-/

namespace HostReport

/-- The integer part of a double. -/
def Binary64.toInt : Binary64 → Except Fault Int
  | .nan => .error .malformed
  | .infinite _ => .error .outOfRange
  | .finite s u h => .ok ((Binary64.truncate? (.finite s u h)).getD 0)

/-- The decimal text of an integer. -/
def integerText (n : Int) : Except Fault String :=
  match Numeral.writeInt? n with
  | some s => .ok s
  | none => .error .malformed

/-- The whole number that a value stands for, if it stands for one; an infinite one is a fault. -/
def Json.toInt? : Json → Except Fault (Option Int)
  | .bool b => .ok (some (if b then 1 else 0))
  | .int n => .ok (some n)
  | .double .nan => .ok none
  | .double x => return some (← x.toInt)
  | .text s => .ok (Numeral.readInt? s.toList)
  | _ => .ok none

end HostReport
