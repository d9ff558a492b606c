import HostReport.Number.Numeral
import HostReport.Text.Line
import HostReport.Text.Search
import HostReport.Text.ShellWord

/-!
# Graphics

Graphics devices in the listings of buses and displays, and how busy they are.
-/

namespace HostReport.Graphics

open Text

/-- The device on a line of quoted fields: the second field tells its class, the third its vendor
and the fourth its name. Only graphics devices have a name here. -/
def deviceName? (line : List Char) : Option String :=
  match ShellWord.split line with
  | some (_ :: deviceClass :: vendor :: device :: _) =>
    if contains "VGA".toList deviceClass || contains "3D".toList deviceClass then
      some (String.ofList (collapse (vendor ++ ' ' :: device)))
    else none
  | _ => none

/-- The graphics devices in a listing of a bus; lines that cannot be read are passed over. -/
def ofBusListing (listing : String) : List String := (lines listing.toList).filterMap deviceName?

/-- The graphics devices in a listing of displays. -/
def ofDisplayListing (listing : String) : List String :=
  ((linesOf listing).filter fun l => beginsWith "Chipset Model:" (strip l)).map valueAfterColon

/-- The mean of the numbers on the lines of a listing, if there is one. -/
def meanOfListing (listing : String) : Option Binary64 :=
  match (lines listing.toList).filterMap fun l => Numeral.readDouble? (Text.strip l) with
  | [] => none
  | values => some (values.foldl (· + ·) 0 / Binary64.ofInt values.length)

end HostReport.Graphics
