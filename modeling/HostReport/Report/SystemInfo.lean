import HostReport.GeoIp.Info
import HostReport.Report.Label

/-!
# What is known of a host

One text for each fact of a host, empty if it is unknown, and the lines of the report that show them
in a fixed order. Some lines are always there; the others only if there is something to show.
-/

namespace HostReport

/-- The facts of a host as texts; an empty text means unknown. -/
structure SystemInfo where
  cpuModel : String := ""
  cpuCores : String := ""
  cpuCache : String := ""
  aesNi : String := ""
  virtualization : String := ""
  memoryTotal : String := ""
  memoryUsage : String := ""
  swapTotal : String := ""
  swapUsage : String := ""
  virtioBalloon : String := ""
  ksm : String := ""
  diskTotal : String := ""
  diskUsage : String := ""
  bootPath : String := ""
  gpuModel : String := ""
  gpuStats : String := ""
  platform : String := ""
  kernel : String := ""
  arch : String := ""
  uptime : String := ""
  timezone : String := ""
  vmType : String := ""
  load : String := ""
  natType : String := ""
  tcpAcceleration : String := ""
  deriving DecidableEq, Repr

namespace SystemInfo

/-- The record with its empty fields filled from another. -/
def fill (i other : SystemInfo) : SystemInfo where
  cpuModel := chooseText i.cpuModel other.cpuModel
  cpuCores := chooseText i.cpuCores other.cpuCores
  cpuCache := chooseText i.cpuCache other.cpuCache
  aesNi := chooseText i.aesNi other.aesNi
  virtualization := chooseText i.virtualization other.virtualization
  memoryTotal := chooseText i.memoryTotal other.memoryTotal
  memoryUsage := chooseText i.memoryUsage other.memoryUsage
  swapTotal := chooseText i.swapTotal other.swapTotal
  swapUsage := chooseText i.swapUsage other.swapUsage
  virtioBalloon := chooseText i.virtioBalloon other.virtioBalloon
  ksm := chooseText i.ksm other.ksm
  diskTotal := chooseText i.diskTotal other.diskTotal
  diskUsage := chooseText i.diskUsage other.diskUsage
  bootPath := chooseText i.bootPath other.bootPath
  gpuModel := chooseText i.gpuModel other.gpuModel
  gpuStats := chooseText i.gpuStats other.gpuStats
  platform := chooseText i.platform other.platform
  kernel := chooseText i.kernel other.kernel
  arch := chooseText i.arch other.arch
  uptime := chooseText i.uptime other.uptime
  timezone := chooseText i.timezone other.timezone
  vmType := chooseText i.vmType other.vmType
  load := chooseText i.load other.load
  natType := chooseText i.natType other.natType
  tcpAcceleration := chooseText i.tcpAcceleration other.tcpAcceleration

/-- A part of a record and the whole, with a slash between them. -/
def ofWhole (used total : String) : String := s!"{used} / {total}"

/-- What is shown of swap space: that there is none, or its use and size if both are known. -/
def swapShown (i : SystemInfo) (language : Language) : Option String :=
  if i.swapTotal.isEmpty && i.swapUsage.isEmpty then some (Message.noSwap.text language)
  else if !i.swapTotal.isEmpty && !i.swapUsage.isEmpty then
    some (ofWhole i.swapUsage i.swapTotal)
  else none

/-- What a line shows of a record, if the line is there. Lines about networks show nothing of it. -/
def shown (i : SystemInfo) (language : Language) : Label → Option String
  | .cpuModel => some i.cpuModel
  | .cpuCores => some i.cpuCores
  | .cpuCache => known i.cpuCache
  | .aesNi => known i.aesNi
  | .virtualization => known i.virtualization
  | .ram => some (ofWhole i.memoryUsage i.memoryTotal)
  | .virtioBalloon => known i.virtioBalloon
  | .ksm => known i.ksm
  | .swap => i.swapShown language
  | .disk => some (ofWhole i.diskUsage i.diskTotal)
  | .bootPath => known i.bootPath
  | .gpuModel => known i.gpuModel
  | .gpuStats => known i.gpuStats
  | .osRelease => some s!"{i.platform} [{i.arch}] "
  | .kernel => known i.kernel
  | .uptime => some i.uptime
  | .timezone => known i.timezone
  | .load => some i.load
  | .vmType => some i.vmType
  | .natType => known i.natType
  | .tcpAcceleration => known i.tcpAcceleration
  | .ipv4Asn | .ipv4Location | .ipv6Asn | .ipv6Location | .ipv6Mask => none
where
  known (text : String) : Option String := if text.isEmpty then none else some text

/-- The lines that show a record, in the order of the labels. -/
def lines (i : SystemInfo) (language : Language) : List (Label × String) :=
  Label.all.filterMap fun l => (i.shown language l).map (l, ·)

/-- The text that shows a record. -/
def render (i : SystemInfo) (language : Language) (columns : List Char → Nat := Text.columns) :
    String :=
  String.join ((i.lines language).map fun l => l.1.line l.2 language columns)

end SystemInfo

end HostReport
