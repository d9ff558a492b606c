import HostReport.AddressTranslation.Detect
import HostReport.Collector.Cpu
import HostReport.Collector.Disk
import HostReport.Collector.Gpu
import HostReport.Collector.Identity
import HostReport.Collector.Memory
import HostReport.GeoIp.Lookup

/-!
# Collecting everything

All collectors of a platform, and the kind of address translation if the internet is reached. Every
collector owns its fields, so it does not matter in which order their records are put together.
-/

namespace HostReport

/-- Collects the kind of address translation. -/
def collectNat (settings : Settings) : Collector Unit := do
  let kind ← NatType.detect settings.stunTimeout settings.stunServers
  Collector.write fun i => { i with natType := kind.text }

namespace Platform

/-- The collectors of a platform; that of address translation only if the internet is reached. -/
def collectors (p : Platform) (settings : Settings) (isOnline : Bool) : List (Collector Unit) :=
  [p.collectHost, p.collectCpu, p.collectMemory, p.collectDisk, p.collectGpu, p.collectTcp] ++
    if isOnline then [collectNat settings] else []

/-- All facts of a host. Collectors that run at the same time need workers. -/
def collectAll (p : Platform) (settings : Settings) (isOnline : Bool) : HostM SystemInfo := do
  if p.isConcurrent then requireWorkers settings.maxWorkers
  let parts ← HostM.all ((p.collectors settings isOnline).map (·.part))
  return parts.foldl SystemInfo.fill {}

end Platform

end HostReport
