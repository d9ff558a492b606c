import HostReport.Number.Fixed
import HostReport.Number.Integral
import HostReport.Quantity
import HostReport.Text.Line
import HostReport.Text.Scan
import HostReport.Text.Search

/-!
# Times and loads

When a host was started and how long it has been up, how loaded it is, and its time zone.
-/

namespace HostReport

open Text

/-- The seconds in a listing of the time of the start. -/
def startSeconds : Scan (List Char) := do
  Scan.word "sec = "
  let seconds ← Scan.run1 isDecimal
  Scan.word ", usec = "
  let _ ← Scan.one isDecimal
  return seconds

/-- The time of the start in a listing, in seconds since the epoch. -/
def startOfListing (listing : String) : Except Fault (Option Int) :=
  match Scan.findFirst startSeconds listing.toList with
  | none => .ok none
  | some digits =>
    match Numeral.readInt? digits with
    | some n => .ok (some n)
    | none => .error .malformed

/-- A number of at least two digits. -/
def twoDigits (n : Nat) : String := (if n < 10 then "0" else "") ++ toString n

/-- Seconds as days, hours and minutes; what is negative counts as none. -/
def uptimeText (seconds : Binary64) : Except Fault String := do
  let s := (← seconds.toInt).toNat
  let days := s / 86400
  let hours := s % 86400 / 3600
  let minutes := s % 3600 / 60
  return s!"{days} days, {twoDigits hours} hours, {twoDigits minutes} minutes"

/-- The seconds from a start until now. -/
def elapsed (now : Binary64) (start : Quantity) : Except Fault Binary64 :=
  start.toDouble.map (now - ·)

/-- Mean loads with two decimal places. -/
def loadText (loads : List Binary64) : String := " / ".intercalate (loads.map (·.toFixed))

/-- The mean loads that a listing begins with. -/
def loadOfListing (listing : String) : Option (Binary64 × Binary64 × Binary64) :=
  match words listing.toList with
  | a :: b :: c :: _ => do
    return (← Numeral.readDouble? a, ← Numeral.readDouble? b, ← Numeral.readDouble? c)
  | _ => none

/-- The time zone in a listing of clock settings, empty if it names none. -/
def zoneOfListing (listing : String) : String :=
  (((linesOf listing).find? fun l => beginsWith "Time zone" (strip l)).map valueAfterColon).getD ""

/-- The time zone that a path into a tree of zone descriptions names, empty for any other path. -/
def zoneOfPath (path : String) : String :=
  ((after? "zoneinfo/".toList path.toList).map String.ofList).getD ""

end HostReport
