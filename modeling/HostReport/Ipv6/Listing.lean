import HostReport.Ipv6.Scope
import HostReport.Json.Display
import HostReport.Json.Reader
import HostReport.Number.Numeral
import HostReport.Text.Line
import HostReport.Text.Scan
import HostReport.Text.Search

/-!
# Listings of prefix lengths

How the listings of administration tools and configuration files are read: each is searched for
addresses with the length of their prefix, and the first global address with a length of use
decides; of the listing of addresses with their scope it is the least length. Lengths have digits
only, but digits of any kind; one that is no number after all is a fault.
-/

namespace HostReport.Ipv6

open Text

/-- The number that the text of a length denotes. -/
def readLength (length : List Char) : Except Fault Int :=
  match Numeral.readInt? length with
  | some n => .ok n
  | none => .error .malformed

/-- The length of the first global address that has a length of use. -/
def firstPublic : List (List Char × List Char) → Except Fault (Option Int)
  | [] => .ok none
  | (address, length) :: more =>
    if isPublicText (String.ofList address) && isDigits length then do
      let n ← readLength length
      if isValidLength n then return some n else firstPublic more
    else firstPublic more

/-- An address and, after a slash, the length of its prefix. -/
def slashPair : Scan (List Char × List Char) := do
  let address ← Scan.run1 isHexOrColon
  Scan.word "/"
  let length ← Scan.run1 isDecimal
  return (address, length)

/-! ## Listings -/

/-- A prefix in a dump of advertisements. -/
def dumpedPrefix : Scan (List Char × List Char) := do
  Scan.caseless "prefix"
  let _ ← Scan.blanks1
  slashPair

/-- Reads a dump of router advertisements. -/
def ofAdvertisementDump (listing : String) : Except Fault (Option Int) :=
  firstPublic (Scan.findAll dumpedPrefix listing.toList)

/-- A global address in a listing of addresses with their scope. -/
def scopedAddress : Scan (List Char × List Char) := do
  Scan.word "inet6"
  let _ ← Scan.blanks1
  let pair ← slashPair
  let _ ← Scan.blanks1
  Scan.word "scope"
  let _ ← Scan.blanks1
  Scan.word "global"
  return pair

/-- The lengths of use of the global addresses among the pairs. -/
def publicLengths : List (List Char × List Char) → Except Fault (List Int)
  | [] => .ok []
  | (address, length) :: more =>
    if isPublicText (String.ofList address) then do
      let n ← readLength length
      let rest ← publicLengths more
      return if isValidLength n then n :: rest else rest
    else publicLengths more

/-- Reads a listing of addresses with their scope, of which the least length counts. -/
def ofAddressListing (listing : String) : Except Fault (Option Int) := do
  return (← publicLengths (Scan.findAll scopedAddress listing.toList)).min?

/-- An address in the listing of an interface, with an optional zone behind it. -/
def interfaceAddress : Scan (List Char × List Char) := do
  Scan.word "inet6"
  let _ ← Scan.blanks1
  let address ← Scan.run1 isHexOrColon
  Scan.optional (Scan.word "%")
  let _ ← Scan.run isWordChar
  let _ ← Scan.blanks1
  Scan.word "prefixlen"
  let _ ← Scan.blanks1
  let length ← Scan.run1 isDecimal
  return (address, length)

/-- Reads the listing of an interface. -/
def ofInterfaceListing (listing : String) : Except Fault (Option Int) :=
  firstPublic (Scan.findAll interfaceAddress listing.toList)

/-- What a line begins with that names a service. -/
def servicePrefix : String := "Hardware Port: "

/-- The service named on the line before the one of the device, empty if there is none. -/
def serviceOf (device : String) : List (List Char) → String
  | named :: line :: more =>
    if strip (String.ofList line) = "Device: " ++ device &&
        servicePrefix.toList.isPrefixOf named then
      strip (String.ofList (named.drop servicePrefix.length))
    else serviceOf device (line :: more)
  | _ => ""

/-- The network service of an interface in the listing of services and their devices. -/
def ofServiceListing (listing interface : String) : String :=
  serviceOf interface (lines listing.toList)

/-- Blanks among which there is a line feed. -/
def blankLineEnd : Scan Unit := do
  let b ← Scan.blanks
  if b.contains '\n' then pure () else failure

/-- Address and length on two lines of the description of a service. -/
def serviceAddress : Scan (List Char × List Char) := do
  Scan.caseless "IPv6"
  let _ ← Scan.blanks1
  Scan.optional do
    Scan.caseless "IP"
    let _ ← Scan.blanks1
  Scan.caseless "Address:"
  let _ ← Scan.blanks
  let address ← Scan.run1 isHexOrColon
  blankLineEnd
  Scan.caseless "IPv6"
  let _ ← Scan.blanks1
  Scan.caseless "Prefix"
  let _ ← Scan.blanks1
  Scan.caseless "Length:"
  let _ ← Scan.blanks
  let length ← Scan.run1 isDecimal
  return (address, length)

/-- Reads the description of a network service. -/
def ofServiceDescription (listing : String) : Except Fault (Option Int) :=
  firstPublic (Scan.findAll serviceAddress listing.toList)

/-- Reads the lines of a listing in sections, of which `current` is the heading of the one at
hand. -/
def ofSections (interface current : List Char) :
    List (List Char) → Except Fault (Option Int)
  | [] => .ok none
  | raw :: more =>
    let line := Text.strip raw
    if line.getLast? == some ':' then ofSections interface line.dropLast more
    else if current.isEmpty || !contains (lower interface) (lower current) then
      ofSections interface current more
    else if contains "Address".toList line && contains "Parameters".toList line then do
      match ← firstPublic (Scan.findFirst slashPair line).toList with
      | some n => return some n
      | none => ofSections interface current more
    else ofSections interface current more

/-- Reads a listing with a section for each interface: the sections whose heading holds the name of
the interface, in either case, count. -/
def ofSectionListing (listing interface : String) : Except Fault (Option Int) :=
  ofSections interface.toList [] (lines listing.toList)

/-- The shown text of a member, empty if it is missing. -/
def shownMember (fields : List (String × Json)) (name : String) : List Char :=
  ((Json.field? name fields).elim "" Json.display).toList

/-- Address and length in an object. -/
def objectPair? : Json → Option (List Char × List Char)
  | .object fields => some (shownMember fields "IPAddress", shownMember fields "PrefixLength")
  | _ => none

/-- Reads addresses as JSON: one object, or an array in which other values are passed over. -/
def ofJsonListing (maxNesting : Nat := Json.usualNesting) (listing : String) :
    Except Fault (Option Int) :=
  match Json.parse listing maxNesting with
  | .error .malformed => .ok none
  | .error .tooDeep => .error .tooDeep
  | .ok (.array items) => firstPublic (items.filterMap objectPair?)
  | .ok value => firstPublic (objectPair? value).toList

/-! ## Configuration files -/

/-- The first length of use among the texts. -/
def firstValid : List (List Char) → Except Fault (Option Int)
  | [] => .ok none
  | length :: more => do
    let n ← readLength length
    if isValidLength n then return some n else firstValid more

/-- A setting of a prefix length or a mask, with blanks, colons or equals signs before the
number. -/
def networkSetting : Scan (List Char) := do
  Scan.caseless "prefix-length" <|> Scan.caseless "prefixlen" <|> Scan.caseless "netmask"
  let _ ← Scan.run1 fun c => isBlank c || c == ':' || c == '='
  Scan.run1 isDecimal

/-- Reads a file of network settings. -/
def ofNetworkSettings (file : String) : Except Fault (Option Int) :=
  firstValid (Scan.findAll networkSetting file.toList)

/-- An assignment of a prefix length, with or without quotes. -/
def startupSetting : Scan (List Char) := do
  Scan.caseless "ipv6_prefix"
  Scan.optional (Scan.caseless "len")
  Scan.word "="
  Scan.optional (Scan.word "\"")
  let length ← Scan.run1 isDecimal
  Scan.optional (Scan.word "\"")
  return length

/-- Reads a file of startup settings. -/
def ofStartupSettings (file : String) : Except Fault (Option Int) :=
  firstValid (Scan.findAll startupSetting file.toList)

end HostReport.Ipv6
