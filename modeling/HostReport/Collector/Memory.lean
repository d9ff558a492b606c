import HostReport.Collector.Basic
import HostReport.Platform.Basic
import HostReport.Platform.Kernel
import HostReport.Storage.Listing

/-!
# Memory

Size and use of memory and swap space, and two features of the kernel that change how memory is
shared. On macOS the profile tells the size of memory, and a listing that of swap space.
-/

namespace HostReport

/-- Bytes of memory that are in use. -/
def Memory.used (m : Memory) : Except Fault Quantity := m.total.sub m.available

namespace Platform

/-- Writes size and use of swap space, if there is any. -/
def writeSwap (swap : Usage) : Collector Unit := do
  if !swap.total.isZero then
    let total ← Collector.ofExcept (sizeText swap.total)
    Collector.write fun i => { i with swapTotal := total }
    let used ← Collector.ofExcept (sizeText swap.used)
    Collector.write fun i => { i with swapUsage := used }

/-- How a feature is shown that has to be found. -/
def found (p : Platform) (isFound : Bool) : String := if isFound then p.enabled else p.undetected

/-- Writes what every platform tells of memory. -/
def writeMemoryBasics (p : Platform) : Collector Unit := do
  let h ← read
  let memory ← Collector.ofExcept h.memory
  let total ← Collector.ofExcept (sizeText memory.total)
  Collector.write fun i => { i with memoryTotal := total }
  let used ← Collector.ofExcept (memory.used >>= sizeText)
  Collector.write fun i => { i with memoryUsage := used }
  writeSwap (← Collector.ofExcept h.swap)
  let modules ← Host.readText "/proc/modules"
  let sharing ← Host.readText "/sys/kernel/mm/ksm/run"
  Collector.write fun i =>
    { i with
      virtioBalloon := p.found (containsWord "virtio_balloon" modules)
      ksm := p.found (containsWord "1" sharing) }

/-- Writes what macOS tells of memory. -/
def writeMacMemory : Collector Unit := do
  let total := (← macProfile).value "Memory"
  Collector.write fun i =>
    { i with
      memoryTotal := chooseText total i.memoryTotal
      swapTotal := ""
      swapUsage := "" }
  match swapOfListing (← Host.outputOf ["sysctl", "vm.swapusage"]) with
  | some (total, used) => Collector.write fun i => { i with swapTotal := total, swapUsage := used }
  | none => pure ()

/-- Collects the facts of memory. -/
def collectMemory (p : Platform) : Collector Unit := do
  p.writeMemoryBasics
  match p with
  | darwin => writeMacMemory
  | _ => pure ()

end Platform

end HostReport
