import HostReport.Collector.Basic
import HostReport.Graphics
import HostReport.Number.Fixed
import HostReport.Platform.Basic
import HostReport.Platform.Management

/-!
# Graphics devices

The first graphics device, and how busy graphics devices are. The tool that tells the latter may
need a few attempts.
-/

namespace HostReport.Platform

/-- The graphics devices of a host. -/
def gpuModels : Platform → HostM (List String)
  | linux => do
    match ← Host.findTool "lspci" with
    | some tool => return Graphics.ofBusListing (← Host.outputOf [tool, "-mm"])
    | none => return []
  | darwin => do
    return Graphics.ofDisplayListing
      (← Host.outputOf ["system_profiler", "SPDisplaysDataType"])
  | windows => do
    HostM.ofExcept (Row.texts (← managementRows "Win32_VideoController") "Name")
  | _ => return []

/-- How often a tool is asked how busy graphics devices are. -/
def gpuAttempts : Nat := 3

/-- Asks a tool until it tells how busy graphics devices are, at most so many times, with a second
between. -/
def askUtilization (tool : String) : Nat → HostM (Option Binary64)
  | 0 => return none
  | attempts + 1 => do
    let words := [tool, "--query-gpu=utilization.gpu", "--format=csv,noheader,nounits"]
    match Graphics.meanOfListing (← Host.outputOf words) with
    | some x => return some x
    | none =>
      if attempts ≠ 0 then Host.sleep
      askUtilization tool attempts

/-- How busy graphics devices are, in percent. -/
def gpuUtilization : HostM (Option Binary64) := do
  match ← Host.findTool "nvidia-smi" with
  | some tool => askUtilization tool gpuAttempts
  | none => return none

/-- Collects the facts of graphics devices. -/
def collectGpu (p : Platform) : Collector Unit := do
  match ← p.gpuModels with
  | [] => pure ()
  | model :: _ =>
    Collector.write fun i => { i with gpuModel := model }
    match ← gpuUtilization with
    | some x =>
      if Binary64.lt 0 x then Collector.write fun i => { i with gpuStats := x.toFixed ++ "%" }
    | none => pure ()

end HostReport.Platform
