import HostReport.Address.V4
import HostReport.Http.Fetch
import HostReport.Number.Numeral
import HostReport.Page.Outline
import HostReport.Text.Scan

/-!
# Announced prefixes

The prefix under which a network announces an address, as two services tell it: one in the text of a
registry record, the other as a link on a page. The second is asked if the first has no usable
answer. And the network of 256 addresses that hides which of them is meant.
-/

namespace HostReport

/-- The first address of the network of 256 addresses around an IPv4 address; empty for any other
text. -/
def maskIp (ip : String) : String :=
  match Ipv4.ofText? ip.toList with
  | some a => a.network24.text
  | none => ""

namespace Bgp

open Text

/-- A character of a written prefix. -/
def isCidrChar (c : Char) : Bool := c.isDigit || c == '.' || c == '/'

/-- A prefix behind its heading in a registry record. -/
def headedCidr : Scan (List Char) := do
  Scan.word "CIDR:"
  let _ ← Scan.blanks1
  Scan.run1 isCidrChar

/-- The prefix in the registry record that a JSON text holds, empty if there is none. -/
def cidrOfRecord (payload : String) (maxNesting : Nat := Json.usualNesting) :
    Except Fault String :=
  match Json.parse payload maxNesting with
  | .error .tooDeep => .error .tooDeep
  | .error .malformed => .ok ""
  | .ok data =>
    match data.member? "data" with
    | some (.text record) =>
      .ok (String.ofList ((Scan.findFirst headedCidr record.toList).getD []))
    | _ => .ok ""

/-- Whether an element is a cell that shows prefixes. -/
def isPrefixCell (e : Page.Element) : Bool :=
  e.name = "td" && e.classes.contains "smallonmobile" && e.classes.contains "nowrap"

/-- Where the links in the cells of a page that show prefixes lead to, in their order. -/
def prefixLinks (page : String) : Except Fault (List String) := do
  let links := (← Page.elements page).filter fun e => e.1.name = "a" && e.2.any isPrefixCell
  return links.map fun e => (e.1.attribute? "href").getD ""

/-- The prefix that a link leads to. -/
def cidrOfLink (location : String) : Option String :=
  match "/prefix/".toList.isPrefixOf? location.toList with
  | some cidr => if !cidr.isEmpty && cidr.all isCidrChar then some (String.ofList cidr) else none
  | none => none

/-- The prefix of the first link of a page that leads to one, empty if there is none. Which links
the cells of a page hold is up to `links`, as pages are read by a library. -/
def cidrOfPage (page : String) (links : String → Except Fault (List String) := prefixLinks) :
    Except Fault String := do
  return ((← links page).findSome? cidrOfLink).getD ""

/-- Network and length of a written prefix, if there is a length of digits. -/
def splitCidr (cidr : String) : Except Fault (Option (String × Int)) :=
  match cut? '/' cidr.toList with
  | none => .ok none
  | some (network, length) =>
    if isDigits length then
      match Numeral.readInt? length with
      | some n => .ok (some (String.ofList network, n))
      | none => .error .malformed
    else .ok none

/-- The services, with how a prefix is found in their answers. -/
def services (ip : String) (links : String → Except Fault (List String) := prefixLinks)
    (maxNesting : Nat := Json.usualNesting) : List (String × (String → Except Fault String)) :=
  [(s!"https://bgp.he.net/whois/ip/{ip}", fun record => cidrOfRecord record maxNesting),
    (s!"https://bgp.tools/prefix/{ip}", fun page => cidrOfPage page links)]

/-- The seconds that a service may take. -/
def timeout : Binary64 := 6

/-- Whether a fault means that the service could not be reached. -/
def isOfService : Fault → Bool
  | .fetch _ => true
  | _ => false

/-- The prefix that one service tells, if it has a positive length. -/
def askService (settings : Settings) (url : String) (find : String → Except Fault String) :
    HostM (Option (String × Int)) := do
  match ← HostM.attempt (fetchText url "ipv4" settings true (some timeout)) with
  | .error f => if isOfService f then return none else throw f
  | .ok body =>
    let cidr ← HostM.ofExcept (find body)
    return (← HostM.ofExcept (splitCidr cidr)).filter (0 < ·.2)

/-- The first answer of the services. -/
def firstAnswer (settings : Settings) :
    List (String × (String → Except Fault String)) → HostM (Option (String × Int))
  | [] => return none
  | (url, find) :: more => do
    match ← askService settings url find with
    | some answer => return some answer
    | none => firstAnswer settings more

/-- Network and length of the prefix that announces an address. -/
def announcedPrefix (ip : String) (settings : Settings)
    (links : String → Except Fault (List String) := prefixLinks) :
    HostM (Option (String × Int)) := do
  firstAnswer settings (services ip links (← read).maxNesting)

end Bgp

end HostReport
