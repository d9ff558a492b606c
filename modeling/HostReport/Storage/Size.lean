import HostReport.Number.Fixed
import HostReport.Number.Integral
import HostReport.Quantity

/-!
# Sizes

How sizes are written: with two decimal places in the unit that suits them, or as a whole number of
the largest unit that is not larger. A quotient that exceeds every double is a fault.
-/

namespace HostReport

/-- Bytes of a kilobyte. -/
def kilobyte : Nat := 1024

/-- Bytes of a megabyte. -/
def megabyte : Nat := 1024 * kilobyte

/-- Bytes of a gigabyte. -/
def gigabyte : Nat := 1024 * megabyte

/-- A whole number of parts, `perUnit` of which make a unit, in units with two decimal places. -/
def quotientText (n : Int) (perUnit : Nat) (unit : String) : Except Fault String :=
  (Binary64.ofQuotient? n perUnit).elim (.error .outOfRange)
    fun x => .ok (x.toFixed ++ " " ++ unit)

/-- A number of bytes in megabytes, from a gigabyte on in gigabytes. -/
def sizeText : Quantity → Except Fault String
  | .whole n =>
    if n < gigabyte then quotientText n megabyte "MB" else quotientText n gigabyte "GB"
  | .double x =>
    if x.lt (Binary64.ofInt gigabyte) then .ok ((x / Binary64.ofInt megabyte).toFixed ++ " MB")
    else .ok ((x / Binary64.ofInt gigabyte).toFixed ++ " GB")

/-- A number of kilobytes in the unit that suits it; kilobytes have no decimal places. -/
def kilobytesText (n : Int) : Except Fault String :=
  if 1024 * 1024 ≤ n then quotientText n (1024 * 1024) "GB"
  else if 1024 ≤ n then quotientText n 1024 "MB"
  else do return (← integerText n) ++ " KB"

/-- A number of megabytes, from 1024 on in gigabytes. -/
def megabytesText (x : Binary64) : String :=
  if x = .nan ∨ x.lt 1024 then x.toFixed ++ " MB" else (x / 1024).toFixed ++ " GB"

/-- The largest unit that is not larger than a number of bytes, and how many whole ones it holds. -/
def wholeUnit (n : Int) : String × Int :=
  if gigabyte ≤ n then ("GB", n / gigabyte)
  else if megabyte ≤ n then ("MB", n / megabyte)
  else if kilobyte ≤ n then ("KB", n / kilobyte)
  else ("Bytes", n)

end HostReport
