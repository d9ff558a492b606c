import HostReport.CommandLine.Run

/-!
# The program

Reads the files and the environment that a report looks at, runs the command line on them and writes
what the run leaves behind. Nothing else of the host is asked: commands, sockets and remote sources
count as missing.
-/

namespace HostReport

/-- The files that a report looks at. -/
def reportedFiles : List String :=
  ["/proc/cpuinfo", "/proc/modules", "/proc/loadavg", "/proc/1/cgroup", "/proc/device-tree/model",
    "/proc/sys/net/ipv4/tcp_congestion_control", "/sys/kernel/mm/ksm/run"] ++
    Platform.releaseFiles ++ Platform.networkFiles ++ Platform.startupFiles

/-- Where the kernel tells the name of the operating system, its release and its architecture. -/
def kernelFile (name : String) : String := "/proc/sys/kernel/" ++ name

/-- The variables of the environment that settings are read from. -/
def settingVariables : List String :=
  ["HTTP_TIMEOUT", "ASN_TIMEOUT", "PRECHECK_TIMEOUT", "STUN_TIMEOUT", "MAX_WORKERS",
    "HTTP_RETRIES", "NO_HIT"].map (Settings.variableStem ++ ·)

/-- The bytes of a file, if it can be read. -/
def readBytes? (path : String) : IO (Option Bytes) := do
  try return some (← IO.FS.readBinFile path).toList
  catch _ => return none

/-- The text of a kernel file without blanks at its ends, empty if it cannot be read. -/
def kernelText (name : String) : IO String := do
  let bytes := (← readBytes? (kernelFile name)).getD []
  return strip (String.ofList (Text.Utf8.decode bytes))

/-- The facts of this host. -/
def thisHost : IO Host := do
  let files ← reportedFiles.filterMapM fun path => do
    return (← readBytes? path).map (path, ·)
  let environment ← settingVariables.filterMapM fun name => do
    return (← IO.getEnv name).map (name, ·)
  return {
    system := ← kernelText "ostype"
    release := ← kernelText "osrelease"
    machine := ← kernelText "arch"
    files
    environment }

end HostReport

open HostReport in
/-- Runs the command line. -/
def main (words : List String) : IO UInt32 := do
  let (result, _) := (CommandLine.run words (← thisHost)).run {}
  match result with
  | .ok outcome =>
    (← IO.getStdout).putStr outcome.output
    (← IO.getStderr).putStr outcome.errors
    return outcome.code.toUInt32
  | .error f =>
    (← IO.getStderr).putStrLn (f.message?.getD "the report cannot be made")
    return 1
