import HostReport.Fault

/-!
# The public identity of an address family

What remote sources say about the public address of a host: the address itself, the number and the
owner of its network, and where it is. Merging fills what is still empty and never overwrites, so of
several sources merged in order the first one that knows a field decides it.
-/

namespace HostReport

/-- The public identity of one address family; an empty text means unknown. -/
structure IpInfo where
  ip : String := ""
  asn : String := ""
  org : String := ""
  country : String := ""
  region : String := ""
  city : String := ""
  deriving DecidableEq, Repr

/-- The current text unless it is empty. -/
def chooseText (current candidate : String) : String :=
  if current.isEmpty then candidate else current

namespace IpInfo

/-- Whether a location is known. -/
def hasGeo (i : IpInfo) : Bool := !(i.country.isEmpty && i.region.isEmpty && i.city.isEmpty)

/-- Whether a location is known but no network number. -/
def needsAsn (i : IpInfo) : Bool := i.hasGeo && i.asn.isEmpty

/-- The record with its empty fields filled from another. -/
def fill (i other : IpInfo) : IpInfo where
  ip := chooseText i.ip other.ip
  asn := chooseText i.asn other.asn
  org := chooseText i.org other.org
  country := chooseText i.country other.country
  region := chooseText i.region other.region
  city := chooseText i.city other.city

/-- The record so far, if any, filled from a source, which must be there. -/
def merge (i : Option IpInfo) : Option IpInfo → Except Fault IpInfo
  | none => .error .nothingToMerge
  | some other => .ok ((i.getD {}).fill other)

/-- The answers of sources merged in the order of their names; nothing if none has answered. What is
merged is always there, so merging does not fail. -/
def mergeByPriority (answers : List (String × Option IpInfo)) (order : List String) :
    Option IpInfo :=
  order.foldl (fun merged name =>
    match (answers.lookup name).join with
    | some info => (merge merged (some info)).toOption
    | none => merged) none

end IpInfo

end HostReport
