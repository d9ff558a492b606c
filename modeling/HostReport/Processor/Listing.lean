import HostReport.Number.Numeral
import HostReport.Text.Entry

/-!
# Listings of the processor architecture

One listing for the whole host, with cache sizes in bytes. The clock is that of the first entry that
gives one; its unit is that of the last entry up to there that names a unit of its own.
-/

namespace HostReport

/-- What a listing of the processor architecture tells. -/
structure ProcessorListing where
  model : String := ""
  vendor : String := ""
  clock : String := ""
  clockUnit : String := "MHz"
  l1d : Option Int := none
  l1i : Option Int := none
  l2 : Option Int := none
  l3 : Option Int := none
  hypervisor : String := ""
  virtualization : String := ""
  deriving DecidableEq, Repr

namespace ProcessorListing

/-- The bytes of a cache; a number of instances may stand behind the size. -/
def cacheBytes? (value : String) : Option Int :=
  Numeral.readInt? (value.toList.takeWhile (· != ' '))

/-- The clock and its unit after an entry, while no clock is known. -/
def clockStep (clock : String × String) (e : String × String) : String × String :=
  if !clock.1.isEmpty then clock
  else if e.1 = "CPU MHz" then (e.2, clock.2)
  else if e.1 = "CPU static MHz" then (e.2, "static MHz")
  else if e.1 = "CPU dynamic MHz" then (e.2, "dynamic MHz")
  else clock

/-- The last cache size whose key begins with `name`, if it is a number. -/
def cacheSize? (name : String) (entries : List (String × String)) : Option Int :=
  (lastValue? (beginsWith name) entries).bind cacheBytes?

/-- Reads a listing of the processor architecture. -/
def ofText (text : String) : ProcessorListing :=
  let entries := entriesOf ':' text
  let clock := entries.foldl clockStep ("", "MHz")
  { model := firstValue "Model name" entries
    vendor := (lastValue? (· = "Vendor ID") entries).getD ""
    clock := clock.1
    clockUnit := clock.2
    l1d := cacheSize? "L1d" entries
    l1i := cacheSize? "L1i" entries
    l2 := cacheSize? "L2" entries
    l3 := cacheSize? "L3" entries
    hypervisor :=
      (lastValue? (fun k => k = "Hypervisor vendor" || k = "Hypervisor") entries).getD ""
    virtualization := (lastValue? (· = "Virtualization type") entries).getD "" }

end ProcessorListing

end HostReport
