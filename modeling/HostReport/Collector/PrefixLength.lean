import HostReport.Ipv6.Listing
import HostReport.Ipv6.Mask
import HostReport.Ipv6.Solicitation
import HostReport.Platform.Basic

/-!
# Sources of prefix lengths

Where each platform tells the length of the prefix of an interface, the most trusted source first.
-/

namespace HostReport.Platform

/-- The first length that the files give, each read by `find`. -/
def lengthOfFiles (find : String → Except Fault (Option Int)) :
    List String → HostM (Option Int)
  | [] => return none
  | path :: paths => do
    match ← HostM.ofExcept (find (← Host.readText path)) with
    | some n => return some n
    | none => lengthOfFiles find paths

/-- The length in the output of a command, read by `find`. -/
def lengthOfOutput (words : List String) (find : String → Except Fault (Option Int)) :
    HostM (Option Int) := do
  HostM.ofExcept (find (← Host.outputOf words))

/-- The length in the listing of an interface. -/
def interfaceListingSource (interface : String) : PrefixSource where
  name := "ifconfig"
  length := lengthOfOutput ["ifconfig", interface] Ipv6.ofInterfaceListing

/-! ## Linux -/

/-- Files of network settings. -/
def networkFiles : List String :=
  ["/etc/network/interfaces", "/etc/netplan/01-netcfg.yaml", "/etc/netplan/50-cloud-init.yaml",
    "/etc/sysconfig/network-scripts/ifcfg-eth0"]

/-- The length that advertisements dumped by a tool tell. -/
def dumpedLength (interface : String) : HostM (Option Int) := do
  match ← Host.findTool "radvdump" with
  | some tool =>
    HostM.ofExcept (Ipv6.ofAdvertisementDump
      (← Host.outputUntilStopped [tool, "-i", interface]))
  | none => return none

/-- The first length that a solicited advertisement tells. -/
def solicitedLength (interface : String) : HostM (Option Int) := do
  return (← Ipv6.solicit interface).head?.map Int.ofNat

/-- The least length among the addresses of an interface. -/
def listedLength (interface : String) : HostM (Option Int) := do
  match ← Host.findTool "ip" with
  | some tool =>
    lengthOfOutput [tool, "-o", "-6", "addr", "show", interface] Ipv6.ofAddressListing
  | none => return none

/-! ## macOS -/

/-- The length that the network service of an interface has. -/
def serviceLength (interface : String) : HostM (Option Int) := do
  let listing ← Host.outputOf ["networksetup", "-listallhardwareports"]
  let service := Ipv6.ofServiceListing listing interface
  if service.isEmpty then return none
  else lengthOfOutput ["networksetup", "-getinfo", service] Ipv6.ofServiceDescription

/-! ## BSD -/

/-- Files of startup settings. -/
def startupFiles : List String := ["/etc/rc.conf", "/etc/rc.conf.local"]

/-! ## Windows -/

/-- The query for the addresses of an interface. -/
def addressQuery (interface : String) : String :=
  "Get-NetIPAddress -AddressFamily IPv6 -InterfaceAlias '" ++ interface ++
    "' | Select-Object IPAddress,PrefixLength | ConvertTo-Json"

/-- The length that the addresses of an interface tell as JSON. -/
def queriedLength (interface : String) : HostM (Option Int) := do
  lengthOfOutput ["powershell", "-NoProfile", "-Command", addressQuery interface]
    (Ipv6.ofJsonListing (← read).maxNesting)

/-! ## The sources -/

/-- The sources of a platform for an interface. -/
def lengthSources (p : Platform) (interface : String) : List PrefixSource :=
  match p with
  | generic => []
  | linux =>
    [⟨"radvdump", dumpedLength interface⟩,
      ⟨"router advertisement", solicitedLength interface⟩,
      ⟨"ip addr", listedLength interface⟩,
      ⟨"config files", lengthOfFiles Ipv6.ofNetworkSettings networkFiles⟩]
  | darwin => [interfaceListingSource interface, ⟨"networksetup", serviceLength interface⟩]
  | bsd _ =>
    [interfaceListingSource interface,
      ⟨"rc.conf", lengthOfFiles Ipv6.ofStartupSettings startupFiles⟩]
  | windows =>
    [⟨"netsh", lengthOfOutput ["netsh", "interface", "ipv6", "show", "addresses"]
        (Ipv6.ofSectionListing · interface)⟩,
      ⟨"powershell", queriedLength interface⟩]

end HostReport.Platform
