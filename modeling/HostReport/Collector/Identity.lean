import HostReport.Collector.Basic
import HostReport.Platform.Basic
import HostReport.Platform.Kernel
import HostReport.Platform.Management
import HostReport.Platform.Release
import HostReport.Platform.Time

/-!
# The host itself

Name of the operating system, kernel, architecture, time since the start, mean loads, time zone,
what kind of machine it is, and how its TCP handles congestion.
-/

namespace HostReport.Platform

/-! ## Operating system and kernel -/

/-- Name and release of the operating system. -/
def systemName : HostM String := do
  let h ← read
  return strip s!"{h.system} {h.release}"

/-- The name that the first of the release files gives, empty if none does. -/
def releaseName : List String → HostM String
  | [] => return ""
  | path :: paths => do
    let name := releaseOf (← Host.readText path)
    if name.isEmpty then releaseName paths else return name

/-- Where release files are. -/
def releaseFiles : List String := ["/etc/os-release", "/usr/lib/os-release"]

/-- The caption that Windows gives itself, empty if it gives none. -/
def windowsCaption : HostM String := do
  match ← firstRow? "Win32_OperatingSystem" with
  | none => systemName
  | some row =>
    match ← HostM.ofExcept (row.text? "Caption") with
    | some caption => return caption
    | none => systemName

/-- The name of the operating system. -/
def systemCaption : Platform → HostM String
  | linux => do
    let name ← releaseName releaseFiles
    if name.isEmpty then systemName else return name
  | darwin => do
    let release := (← read).macRelease
    if release.isEmpty then systemName else return "macOS " ++ release
  | windows => windowsCaption
  | _ => systemName

/-- The release of the kernel. -/
def kernelRelease : Platform → HostM String
  | linux => do
    return chooseText (strip (← Host.outputOf ["uname", "-r"])) (← read).release
  | windows => return (← read).version
  | _ => return (← read).release

/-! ## Time and load -/

/-- The time of the start as the operating system tells it; unknown if it cannot. -/
def startTime : HostM (Option Quantity) := do
  let isTolerated (f : Fault) := f.isSystem || f.isBroken
  HostM.orElseOn isTolerated
    (do return some (← HostM.ofExcept (← read).bootTime))
    (pure none)

/-- The time of the start, in seconds since the epoch. -/
def bootTime : Platform → HostM (Option Quantity)
  | bsd sysctl => do
    match ← HostM.ofExcept (startOfListing (← kernelVariableBy sysctl "kern.boottime")) with
    | some n => return some (.whole n)
    | none => startTime
  | _ => startTime

/-- Mean loads as doubles. -/
def doubleLoads : Loads → Except Fault (Binary64 × Binary64 × Binary64)
  | (one, five, fifteen) => do return (← one.toDouble, ← five.toDouble, ← fifteen.toDouble)

/-- Mean loads as the operating system tells them; zeros if it cannot. -/
def systemLoads : HostM (Binary64 × Binary64 × Binary64) := do
  let isTolerated (f : Fault) := f.isSystem || f = .missingMember
  let loads ← HostM.orElseOn isTolerated (HostM.ofExcept (← read).loadAverage) (pure (0, 0, 0))
  HostM.ofExcept (doubleLoads loads)

/-- Mean loads over one, five and fifteen minutes. -/
def meanLoads : Platform → HostM (Binary64 × Binary64 × Binary64)
  | linux => do
    match loadOfListing (← Host.readText "/proc/loadavg") with
    | some loads => return loads
    | none => systemLoads
  | _ => systemLoads

/-- The time zone that the local time is linked to, or else its abbreviation. -/
def linkedZone (abbreviation : HostM String) : HostM String := do
  let name := zoneOfPath (← Host.realPath "/etc/localtime")
  if name.isEmpty then abbreviation else return name

/-- The time zone as every platform tells it. -/
def commonZone : HostM String := linkedZone do return (← read).zone

/-- The time zone that Linux lists, empty if there is no tool to list it. -/
def listedZone : HostM String := do
  match ← Host.findTool "timedatectl" with
  | some tool => return zoneOfListing (← Host.outputOf [tool])
  | none => return ""

/-- The time zone of the host. -/
def timeZone : Platform → HostM String
  | linux => do
    let zone ← listedZone
    if zone.isEmpty then linkedZone do return strip (← Host.outputOf ["date", "+%Z"])
    else return zone
  | windows => do
    match ← firstRow? "Win32_TimeZone" with
    | none => commonZone
    | some row =>
      match ← HostM.ofExcept (row.text? "Caption") with
      | some caption => return caption
      | none => commonZone
  | _ => commonZone

/-! ## Kind of machine -/

/-- What the tool for it detects, empty if it detects nothing. -/
def detectedVirtual : HostM String := do
  match ← Host.findTool "systemd-detect-virt" with
  | some tool => return virtualName (← Host.outputOf [tool])
  | none => return ""

/-- What the firmware tables name, empty if they name nothing. -/
def firmwareFamily : HostM String := do
  match ← Host.findTool "dmidecode" with
  | some tool => return familyOfListing (← Host.outputOf [tool, "-t", "system"])
  | none => return ""

/-- Whether the host is a container by its marks. -/
def isContainer : HostM Bool := do
  if ← Host.pathExists "/.dockerenv" then return true
  else return containsWord "docker" (← Host.readText "/proc/1/cgroup")

/-- The kind of machine that Linux runs on. -/
def linuxMachine : HostM String := do
  let detected ← detectedVirtual
  if !detected.isEmpty then return detected
  else if ← Host.pathExists "/dev/lxss" then return "Windows Subsystem for Linux"
  else if ← isContainer then return "Docker"
  else
    let family ← firmwareFamily
    return if family.isEmpty then dedicated else family

/-- The kind of machine that Windows runs on. -/
def windowsMachine : HostM String := do
  let system ← firstRow? "Win32_ComputerSystem"
  let os ← firstRow? "Win32_OperatingSystem"
  let systemType ← HostM.ofExcept (system.elim (.ok "") (·.textOrEmpty "SystemType"))
  let buildType ← HostM.ofExcept (os.elim (.ok "") (·.textOrEmpty "BuildType"))
  return kindOfTypes systemType buildType

/-- The kind of machine that the host is. -/
def machineKind : Platform → HostM String
  | generic => return ""
  | linux => linuxMachine
  | darwin => do
    let profile ← macProfile
    return if profile.isEmpty then "" else profile.kind
  | bsd sysctl => return guestName (← kernelVariableBy sysctl "kern.vm_guest")
  | windows => windowsMachine

/-! ## Network stack -/

/-- How TCP handles congestion. -/
def tcpAcceleration : Platform → HostM String
  | linux => do
    match ← Host.findTool "sysctl" with
    | none => return strip (← Host.readText "/proc/sys/net/ipv4/tcp_congestion_control")
    | some tool =>
      return strip (← Host.outputOf [tool, "-n", "net.ipv4.tcp_congestion_control"])
  | bsd sysctl => kernelVariableBy sysctl "net.inet.tcp.cc.algorithm"
  | _ => return ""

/-! ## The collectors -/

/-- Writes the time since the start, if the start is known. -/
def writeUptime (p : Platform) : Collector Unit := do
  match ← p.bootTime with
  | none => pure ()
  | some start =>
    let seconds ← Collector.ofExcept (elapsed (← read).now start)
    let uptime ← Collector.ofExcept (uptimeText seconds)
    Collector.write fun i => { i with uptime }

/-- Collects the facts of the host itself. -/
def collectHost (p : Platform) : Collector Unit := do
  let platform ← p.systemCaption
  Collector.write fun i => { i with platform }
  let kernel ← p.kernelRelease
  Collector.write fun i => { i with kernel }
  let arch := (← read).machine
  Collector.write fun i => { i with arch }
  p.writeUptime
  let (one, five, fifteen) ← p.meanLoads
  Collector.write fun i => { i with load := loadText [one, five, fifteen] }
  let vmType ← p.machineKind
  Collector.write fun i => { i with vmType }
  let timezone ← p.timeZone
  Collector.write fun i => { i with timezone }

/-- Collects how TCP handles congestion. -/
def collectTcp (p : Platform) : Collector Unit := do
  let tcpAcceleration ← p.tcpAcceleration
  Collector.write fun i => { i with tcpAcceleration }

end HostReport.Platform
