import HostReport.Address.V6
import HostReport.Http.Fetch
import HostReport.Ipv6.Scope
import HostReport.Report.Label

/-!
# Finding the prefix length

A host with a public address gets one line that tells the length of its prefix. Sources are asked in
order, and the first one that gives a length of use ends the search; a source that the operating
system refuses, or whose text cannot be read, is passed over. Without a usable interface, or if no
source knows, the whole address counts as the prefix.
-/

namespace HostReport

/-- A source of prefix lengths. -/
structure PrefixSource where
  name : String
  length : HostM (Option Int)

namespace Ipv6

/-- Services that tell the address they are asked from. -/
def addressServices : List String :=
  ["https://ipv6.ip.sb", "https://api6.ipify.org", "https://v6.ident.me"]

/-- The seconds that such a service may take. -/
def addressTimeout : Binary64 := 6

/-- Whether a text is an IPv6 address. -/
def isAddress (text : String) : Bool := (ofText? text.toList).isSome

/-- The first address that a service of the list tells, empty if none does. -/
def firstAddress (settings : Settings) : List String → HostM String
  | [] => return ""
  | url :: more => do
    match ← HostM.attempt (fetchText url "ipv6" settings false (some addressTimeout) (some 0)) with
    | .error (.fetch _) => firstAddress settings more
    | .error f => throw f
    | .ok body =>
      let text := strip body
      if isAddress text then return text else firstAddress settings more

/-- The public address of the host as seen from outside, empty if it has none. -/
def currentAddress (settings : Settings) : HostM String := firstAddress settings addressServices

/-- Whether an interface is wired by its name. -/
def isWired (i : Interface) : Bool := beginsWith "eth" i.name || beginsWith "en" i.name

/-- Whether an interface leads back to the host. -/
def isLoopback (i : Interface) : Bool :=
  beginsWith "lo" i.name || i.addresses.any fun a => a.2 = "127.0.0.1" || a.2 = "::1"

/-- The interface that leads to the network: the first wired one, otherwise the first that is up and
no loopback; empty if there is none. -/
def chooseInterface (interfaces : List Interface) (interfacesUp : List (String × Bool)) : String :=
  match interfaces.find? isWired with
  | some i => i.name
  | none =>
    let isUsable (i : Interface) := !isLoopback i && (Host.find interfacesUp i.name).getD false
    ((interfaces.find? isUsable).map (·.name)).getD ""

/-- The interface that leads to the network. -/
def defaultInterface : HostM String := do
  let h ← read
  return chooseInterface (← HostM.ofExcept h.interfaces) h.interfacesUp

/-- The line that tells a prefix length. -/
def maskLine (length : Int) (language : Language) : String :=
  Label.ipv6Mask.line s!"/{length}" language

/-- The length that counts if none is found. -/
def wholeAddress : Int := 128

/-- A fault after which the next source is asked. -/
def isOfPrefixSource (f : Fault) : Bool := f.isSystem || f.isValue

/-- The length that a source gives, if it is of use. -/
def askPrefixSource (s : PrefixSource) : HostM (Option Int) := do
  HostM.consult (.prefixLength s.name)
  let length ← HostM.orElseOn isOfPrefixSource s.length (pure none)
  return length.filter isValidLength

/-- The length that counts: of the first source that gives one of use. -/
def firstLength : List PrefixSource → HostM Int
  | [] => return wholeAddress
  | s :: more => do
    match ← askPrefixSource s with
    | some n => return n
    | none => firstLength more

/-- The line for a host with this public address, empty if it has none. The interface is the one
given, if any. -/
def findMaskLine (publicAddress : String) (language : Language)
    (sources : String → List PrefixSource) (interface : Option String := none) :
    HostM String := do
  if publicAddress.isEmpty then return ""
  let name ←
    match interface with
    | some name => pure name
    | none => defaultInterface
  if name.isEmpty then return maskLine wholeAddress language
  HostM.consult (.interface name)
  return maskLine (← firstLength (sources name)) language

end Ipv6

end HostReport
