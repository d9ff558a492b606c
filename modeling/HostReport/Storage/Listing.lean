import HostReport.Storage.Size
import HostReport.Text.Line
import HostReport.Text.Blank

/-!
# Listings of storage

Swap space and the root filesystem as system tools list them.
-/

namespace HostReport

/-- A text without the letters M at its end. -/
def dropMegaMark (s : String) : List Char := Text.trimEnd (· == 'M') s.toList

/-- Total and used swap space in a listing whose fourth and seventh words are megabytes. -/
def swapOfListing (listing : String) : Option (String × String) :=
  match wordsOf listing with
  | _ :: _ :: _ :: total :: _ :: _ :: used :: _ => do
    let total ← Numeral.readDouble? (dropMegaMark total)
    let used ← Numeral.readDouble? (dropMegaMark used)
    return (megabytesText total, megabytesText used)
  | _ => none

/-- Total and used bytes of the root filesystem, if the line is about it: the last of six columns
tells where a filesystem is mounted, the second and third its size and use in kilobytes. -/
def rootUsage? (line : String) : Option (Int × Int) :=
  match wordsOf line with
  | [_, total, used, _, _, "/"] => do
    return ((← Numeral.readInt? total.toList) * 1024, (← Numeral.readInt? used.toList) * 1024)
  | _ => none

/-- Total and used bytes of the root filesystem in a listing of filesystems. -/
def rootOfListing (listing : String) : Int × Int :=
  ((linesOf listing).findSome? rootUsage?).getD (0, 0)

end HostReport
