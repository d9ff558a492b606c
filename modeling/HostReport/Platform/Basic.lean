import HostReport.Host.Session

/-!
# Platforms

The families of operating systems that are looked at in different ways. A platform of the BSD kind
knows the tool that reads kernel variables from the moment it is chosen. Where management objects
are bound to one thread, collectors run one after another.
-/

namespace HostReport

/-- A family of operating systems. -/
inductive Platform where
  | generic
  | linux
  | darwin
  | bsd (sysctl : Option String)
  | windows
  deriving DecidableEq, Repr

namespace Platform

/-- The name of a platform. -/
def name : Platform → String
  | generic => "generic"
  | linux => "linux"
  | darwin => "darwin"
  | bsd _ => "bsd"
  | windows => "windows"

/-- Whether collectors may run at the same time. -/
def isConcurrent : Platform → Bool
  | windows => false
  | _ => true

/-- The operating systems of the BSD kind. -/
def bsdSystems : List String := ["FreeBSD", "OpenBSD", "NetBSD", "DragonFly"]

/-- The platform of an operating system. -/
def ofSystem (system : String) : HostM Platform := do
  if system = "Linux" then return linux
  else if system = "Darwin" then return darwin
  else if system = "Windows" then return windows
  else if bsdSystems.contains system then return bsd (← Host.findTool "sysctl")
  else return generic

/-- The platform of an operating system, by default of the host's own. -/
def select (system : String := "") : HostM Platform := do
  let h ← read
  ofSystem (if system.isEmpty then h.system else system)

/-! ## States of a feature -/

/-- How a feature is shown that is enabled. -/
def enabled : Platform → String
  | windows => "[Y] Enabled"
  | _ => "✔️ Enabled"

/-- How a feature is shown that is disabled. -/
def disabled : Platform → String
  | windows => "[N] Disabled"
  | _ => "❌ Disabled"

/-- How a feature is shown that was not found. -/
def undetected : Platform → String
  | windows => "[N] Undetected"
  | _ => "❌ Undetected"

/-- How a feature is shown. -/
def status (p : Platform) (isOn : Bool) : String := if isOn then p.enabled else p.disabled

end Platform

end HostReport
