import HostReport.Collector.Basic
import HostReport.Platform.Basic
import HostReport.Platform.Kernel
import HostReport.Platform.Management
import HostReport.Processor.Caption
import HostReport.Processor.Feature
import HostReport.Processor.Listing
import HostReport.Processor.Table

/-!
# The processor

Model with clock, cores, caches, and the state of AES instructions and of virtualization.
-/

namespace HostReport

/-- The table of processors. -/
def processorTable : HostM ProcessorTable := do
  return ProcessorTable.ofText (← Host.readText "/proc/cpuinfo")

/-- The listing of the processor architecture; with nothing known if there is no tool for it. -/
def processorListing : HostM ProcessorListing := do
  match ← Host.findTool "lscpu" with
  | some tool => return ProcessorListing.ofText (← Host.outputOf [tool, "-B"])
  | none => return {}

namespace Platform

/-- Whether the processor is virtual. -/
def isVirtual : Platform → HostM Bool
  | generic => return false
  | linux => return (← processorTable).has "hypervisor"
  | darwin => return (← kernelVariable "kern.hv_vmm_present") = "1"
  | bsd sysctl => do
    let guest ← kernelVariableBy sysctl "kern.vm_guest"
    return !guest.isEmpty && guest ≠ "none"
  | windows => do
    match ← firstRow? "Win32_ComputerSystem" with
    | some row => return (row.lookup "HypervisorPresent").any Json.isTruthy
    | none => return false

/-- What the processor is called: virtual or physical. -/
def cpuType (p : Platform) : HostM String := do
  return if ← p.isVirtual then "Virtual" else "Physical"

/-! ## What every platform tells -/

/-- Writes the number of processors, if there is one other than zero. -/
def writeCores (p : Platform) : Option Int → Collector Unit
  | none => pure ()
  | some count =>
    if count = 0 then pure ()
    else do
      let n ← Collector.ofExcept (integerText count)
      let cores := s!"{n} {← p.cpuType} CPU(s)"
      Collector.write fun i => { i with cpuCores := cores }

/-- Writes the number of processors, and a model where there is none. -/
def writeCpuBasics (p : Platform) : Collector Unit := do
  let h ← read
  p.writeCores (← Collector.ofExcept h.cpuCount)
  Collector.write fun i => { i with cpuModel := chooseText i.cpuModel h.processor }

/-! ## Linux -/

/-- The model with its clock, as the table or else the listing of the processor names them, or else
the vendor, or else the name of the board. -/
def linuxCpuModel (table : ProcessorTable) (listing : ProcessorListing) (board : String) : String :=
  let model := chooseText table.model listing.model
  let model :=
    if table.clock.isEmpty then withClock model listing.clock listing.clockUnit
    else withClock model table.clock
  chooseText (chooseText model listing.vendor) board

/-- The name of the board without the marks at its ends. -/
def boardName : HostM String := do
  let text ← Host.readText "/proc/device-tree/model"
  let isMark (c : Char) := c == Char.ofNat 0 || c == '\n' || c == ' '
  return String.ofList (Text.trim isMark text.toList)

/-- The state of virtualization: the processor supports it, or the host runs under it. -/
def linuxVirtualization (p : Platform) (table : ProcessorTable) (listing : ProcessorListing) :
    String :=
  if table.has "vmx" || table.has "svm" then p.enabled
  else if table.has "hypervisor" || !listing.hypervisor.isEmpty then
    let kind := listing.virtualization
    p.enabled ++ if kind.isEmpty then "" else s!" ({kind})"
  else p.disabled

/-- Writes what Linux tells of the processor. -/
def writeLinuxCpu (p : Platform) : Collector Unit := do
  let table ← processorTable
  let listing ← processorListing
  let model := linuxCpuModel table listing (← boardName)
  Collector.write fun i => { i with cpuModel := model }
  let caches ← Collector.ofExcept (cachesText listing.l1d listing.l1i listing.l2 listing.l3)
  Collector.write fun i =>
    { i with
      cpuCache := chooseText caches table.cache
      aesNi := p.status (table.has "aes")
      virtualization := p.linuxVirtualization table listing }

/-! ## macOS -/

/-- A model followed by the speed that a hardware profile tells, unless the model names one. -/
def withSpeed (model speed : String) : String :=
  if speed.isEmpty || model.toList.contains '@' then model else s!"{model} @ {speed}"

/-- Writes what macOS tells of the processor. -/
def writeMacCpu (p : Platform) : Collector Unit := do
  let profile ← macProfile
  let named := chooseText (profile.value "Chip") (profile.value "Processor Name")
  let model ←
    if named.isEmpty then
      pure (chooseText (← kernelVariable "machdep.cpu.brand_string")
        (← getThe SystemInfo).cpuModel)
    else pure named
  Collector.write fun i =>
    { i with cpuModel := withSpeed model (profile.value "Processor Speed") }
  let size (cache : String) : HostM (Option Int) := do
    return Numeral.readInt? (← kernelVariable s!"hw.{cache}cachesize").toList
  let l1d ← size "l1d"
  let l1i ← size "l1i"
  let l2 ← size "l2"
  let l3 ← size "l3"
  let caches ← Collector.ofExcept (cachesText l1d l1i l2 l3)
  Collector.write fun i => { i with cpuCache := caches }
  let features := ProcessorFeatures.ofEntries (← Host.outputOf ["sysctl", "-a"])
  Collector.write fun i =>
    { i with
      aesNi := p.status features.aes
      virtualization := p.status features.virtualization }

/-! ## BSD -/

/-- Writes what a BSD tells of the processor. -/
def writeBsdCpu (p : Platform) (sysctl : Option String) : Collector Unit := do
  let model ← kernelVariableBy sysctl "hw.model"
  if 3 ≤ model.length then
    let clock ← kernelVariableBy sysctl "dev.cpu.0.freq"
    Collector.write fun i => { i with cpuModel := withClock model clock }
  if (← getThe SystemInfo).cpuCores.isEmpty then
    let count ← kernelVariableBy sysctl "hw.ncpu"
    if !count.isEmpty then
      Collector.write fun i => { i with cpuCores := s!"{count} CPU(s)" }
  match sysctl with
  | none => pure ()
  | some tool =>
    let features := ProcessorFeatures.ofAssignments (← Host.outputOf [tool, "-a"])
    Collector.write fun i =>
      { i with
        aesNi := p.status features.aes
        virtualization := p.status features.virtualization }

/-! ## Windows -/

/-- The registry key of the first processor. -/
def processorKey : String := "HARDWARE\\DESCRIPTION\\System\\CentralProcessor\\0"

/-- The registry key of the hypervisor. -/
def hypervisorKey : String := "SYSTEM\\CurrentControlSet\\Control\\Hypervisor\\0"

/-- The first of the longest texts. -/
def longest? (texts : List String) : Option String :=
  texts.foldl (fun best t =>
    match best with
    | some b => if b.length < t.length then some t else best
    | none => some t) none

/-- The size that a row of a cache tells, if it is a number. -/
def installedSize (r : Row) : Except Fault (Option String) := do
  match ← (← r.member "InstalledSize").toInt? with
  | some n => return some (← kilobytesText n)
  | none => return none

/-- The size of a cache in a member of the row of a processor; what is no number counts as zero. -/
def memberSize (r : Row) (name : String) : Except Fault String := do
  kilobytesText ((← (← r.member name).toInt?).getD 0)

/-- The sizes of the caches: of the first three rows of caches, or else as far as the first
processor knows them. -/
def windowsCaches (processors caches : List Row) : Except Fault String := do
  match (← caches.mapM installedSize).filterMap id with
  | l1 :: l2 :: l3 :: _ => return s!"L1: {l1} / L2: {l2} / L3: {l3}"
  | sizes =>
    match processors with
    | [] => return ""
    | cpu :: _ =>
      let l1 := sizes.headD "null"
      let l2 ←
        match sizes with
        | _ :: l2 :: _ => pure l2
        | _ => memberSize cpu "L2CacheSize"
      let l3 ← memberSize cpu "L3CacheSize"
      return s!"L1: {l1} / L2: {l2} / L3: {l3}"

/-- Whether a row tells that its firmware has virtualization in this state. -/
def firmwareIs (isOn : Bool) (r : Row) : Bool :=
  match r.lookup "VirtualizationFirmwareEnabled" with
  | some (.bool b) => b == isOn
  | _ => false

/-- The state of virtualization on Windows. -/
def windowsVirtualization (p : Platform) (processors : List Row) : HostM String := do
  if ← registryFlag processorKey "vmx" then return p.enabled
  else if processors.any (firmwareIs true) then return p.enabled
  else if processors.any (firmwareIs false) then return p.disabled
  else return p.status (← registryFlag hypervisorKey "hypervisor")

/-- Writes what Windows tells of the processor. -/
def writeWindowsCpu (p : Platform) : Collector Unit := do
  let processors ← managementRows "Win32_Processor"
  match longest? (← Collector.ofExcept (Row.texts processors "Name")) with
  | some model => Collector.write fun i => { i with cpuModel := model }
  | none => pure ()
  let caches ←
    Collector.ofExcept (windowsCaches processors (← managementRows "Win32_CacheMemory"))
  Collector.write fun i => { i with cpuCache := caches }
  let aes ← registryFlag processorKey "aes"
  Collector.write fun i => { i with aesNi := p.status aes }
  let virtualization ← p.windowsVirtualization processors
  Collector.write fun i => { i with virtualization }

/-! ## The collector -/

/-- Collects the facts of the processor. -/
def collectCpu (p : Platform) : Collector Unit := do
  p.writeCpuBasics
  match p with
  | generic => pure ()
  | linux => p.writeLinuxCpu
  | darwin => p.writeMacCpu
  | bsd sysctl => p.writeBsdCpu sysctl
  | windows => p.writeWindowsCpu

end Platform

end HostReport
