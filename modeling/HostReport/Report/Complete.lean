import HostReport.Collector.All
import HostReport.Collector.PrefixLength
import HostReport.Reachability
import HostReport.Report.Network

/-!
# The complete report

The system part followed by the network part, with double line ends made single. Reachability is
probed first: the network part is asked for only over the families that were reached.
-/

namespace HostReport

/-- The system part of a report. -/
def systemReport (p : Platform) (language : Language) (settings : Settings) (isOnline : Bool) :
    HostM String := do
  return (← p.collectAll settings isOnline).render language

/-- The network part for the families that were reached, empty if there are none. -/
def reachedReport (p : Platform) (settings : Settings) (stack : Stack) : HostM String :=
  match stack.check? with
  | some check => networkReport check settings.language settings (some p.lengthSources)
  | none => return ""

/-- A text in which two line ends in a row are written as one. -/
def mergeLineEnds (text : String) : String :=
  String.ofList (Text.replace ['\n', '\n'] ['\n'] text.toList)

/-- The report on a host. -/
def buildReport (settings : Settings) : HostM String := do
  let platform ← Platform.select
  let stack ← probeStack settings.precheckTimeout
  let network ← reachedReport platform settings stack
  let system ← systemReport platform settings.language settings (stack ≠ .offline)
  return mergeLineEnds (system ++ network)

end HostReport
