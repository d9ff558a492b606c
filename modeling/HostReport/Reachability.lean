import HostReport.GeoIp.Lookup

/-!
# Reachability

Before anything is looked up, a few well-known addresses are tried, family by family, until one of
them accepts a connection. What follows is asked only over the families that were reached. A time
limit that a socket refuses with a fault of the system makes the address count as not reached; with
any other fault it ends the run.
-/

namespace HostReport

/-- The families over which the internet is reached. -/
inductive Stack where
  | dual
  | ipv4
  | ipv6
  | offline
  deriving DecidableEq, Repr

namespace Stack

/-- The name of a stack. -/
def name : Stack → String
  | dual => "DualStack"
  | ipv4 => "IPv4"
  | ipv6 => "IPv6"
  | offline => "None"

/-- All stacks. -/
def all : List Stack := [dual, ipv4, ipv6, offline]

/-- The stack with this name. -/
def ofName? (name : String) : Option Stack := all.find? (·.name = name)

/-- The stack of a host that reaches these families. -/
def ofReached (v4 v6 : Bool) : Stack :=
  if v4 && v6 then dual else if v4 then ipv4 else if v6 then ipv6 else offline

/-- The check over the families of a stack; none if it has no family. -/
def check? : Stack → Option CheckType
  | dual => some .both
  | ipv4 => some .ipv4
  | ipv6 => some .ipv6
  | offline => none

end Stack

/-- The addresses that are tried for a family, with the port. -/
def probeTargets : Family → List String
  | .ipv4 => ["1.1.1.1:443", "8.8.8.8:53", "223.5.5.5:53"]
  | .ipv6 => ["2606:4700:4700::1111:443", "2001:4860:4860::8888:53", "2400:3200::1:53"]

/-- Whether one of the addresses accepts a connection in time; those after it are not tried. -/
def reachesAny (timeout : Binary64) (family : Family) : List String → HostM Bool
  | [] => return false
  | target :: more => do
    let h ← read
    match h.timeRefusal timeout with
    | some f => if f.isSystem then reachesAny timeout family more else throw f
    | none =>
      modify fun j => { j with probes := j.probes ++ [(family.name, target)] }
      if h.reachable.contains target then return true else reachesAny timeout family more

/-- The stack of the host, where each try may take this long. Both families are tried. -/
def probeStack (timeout : Binary64 := 3) : HostM Stack := do
  let v4 ← HostM.attempt (reachesAny timeout .ipv4 (probeTargets .ipv4))
  let v6 ← HostM.attempt (reachesAny timeout .ipv6 (probeTargets .ipv6))
  return Stack.ofReached (← HostM.ofExcept v4) (← HostM.ofExcept v6)

end HostReport
