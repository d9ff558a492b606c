import HostReport.Platform.Virtual
import HostReport.Host.Session

/-!
# Kernel variables and hardware profiles

Two ways to ask a kernel for a variable, and the hardware profile of a Mac, which is read once in a
run.
-/

namespace HostReport

/-- The value of a kernel variable. -/
def kernelVariable (name : String) : HostM String := do
  return strip (← Host.outputOf ["sysctl", "-n", name])

/-- The value of a kernel variable as a tool reads it; empty without the tool, or if the tool cannot
read it. -/
def kernelVariableBy (sysctl : Option String) (name : String) : HostM String := do
  match sysctl with
  | none => return ""
  | some tool =>
    let value := strip (← Host.outputOf [tool, "-n", name])
    return if containsWord "cannot" value then "" else value

/-- Reads the hardware profile of a Mac; empty if the tool speaks of an error. -/
def readMacProfile : HostM MacProfile := do
  let listing ← Host.outputOf ["system_profiler", "SPHardwareDataType"]
  return if containsWord "error" (lowercase listing) then [] else MacProfile.ofText listing

/-- The hardware profile of a Mac. -/
def macProfile : HostM MacProfile := do
  match (← get).macProfile with
  | some p => return p
  | none =>
    let p ← readMacProfile
    modify fun j => { j with macProfile := some p }
    return p

end HostReport
