import HostReport.Proofs.Collector.Measuring

/-!
# By which faults collectors fail

A collector fails by faults that end it alone, by those with which the operating system answers a
question for figures, where a figure is out of range, and on Windows where a member of a management
row is of another kind than a text.  Which of the last two there are can be told from the facts of
the host.
-/

namespace HostReport

namespace Host

/-- Whether the operating system answers a question for figures with this fault. -/
inductive Refuses (h : Host) (f : Fault) : Prop
  | processors (hf : h.cpuCount = .error f)
  | memory (hf : h.memory = .error f)
  | swap (hf : h.swap = .error f)
  | start (hf : h.bootTime = .error f)
  | loads (hf : h.loadAverage = .error f)
  | partitions (hf : h.partitions = .error f)
  | allPartitions (hf : h.allPartitions = .error f)
  | filesystem (mountpoint : String) (hf : find h.usage mountpoint = some (.error f))

/-- The rows of a management class. -/
def rows (h : Host) (name : String) : List Row := ((h.management.getD []).lookup name).getD []

/-- Whether the values of these members, named with their classes, have a property wherever there
are any. -/
def MembersHave (h : Host) (members : List (String × String)) (P : Json → Prop) : Prop :=
  ∀ m ∈ members, ∀ r ∈ h.rows m.1, ∀ v, r.lookup m.2 = some v → P v

/-- The members that are shown as texts. -/
def textMembers : List (String × String) :=
  [("Win32_OperatingSystem", "Caption"), ("Win32_TimeZone", "Caption"),
    ("Win32_Processor", "Name"), ("Win32_VideoController", "Name"),
    ("Win32_ComputerSystem", "SystemType"), ("Win32_OperatingSystem", "BuildType")]

/-- The members that are shown as sizes of caches. -/
def cacheMembers : List (String × String) :=
  [("Win32_CacheMemory", "InstalledSize"), ("Win32_Processor", "L2CacheSize"),
    ("Win32_Processor", "L3CacheSize")]

end Host

namespace Platform

/-- Whether a host may show this as size and use of its disks. -/
def MayShowDisk (p : Platform) (h : Host) (u : Usage) : Prop :=
  ∃ partitions counted, h.partitions = .ok partitions ∧ h.countedUsage partitions = .ok counted ∧
    (p.usageOrRoot counted).MayGive h u

/-- Whether the time from a start until now is a number of seconds. -/
def IsElapsed (now : Binary64) (start : Quantity) : Prop :=
  ∃ seconds, elapsed now start = .ok seconds ∧ ∀ negative, seconds ≠ .infinite negative

/-- Whether no figure of a host is out of range. -/
structure FiguresInRange (p : Platform) (h : Host) : Prop where
  memory : ∀ m, h.memory = .ok m → m.IsWritable
  swap : ∀ s, h.swap = .ok s → s.total.isZero = false → s.IsWritable
  counted : ∀ partitions, h.partitions = .ok partitions →
    ∃ counted, h.countedUsage partitions = .ok counted
  disk : ∀ u, p.MayShowDisk h u → u.IsWritable
  start : ∀ start, p.bootTime.MayGive h (some start) → IsElapsed h.now start
  loads : ∀ loads, h.loadAverage = .ok loads → ∃ doubles, doubleLoads loads = .ok doubles
  caches : p = windows → h.MembersHave Host.cacheMembers Json.IsCacheSize

/-- By which faults the collectors of a platform fail. -/
inductive Raises (p : Platform) (h : Host) : Fault → Prop
  | tolerated {f : Fault} (hf : f.isOfCollector = true) : Raises p h f
  | refused {f : Fault} (hf : h.Refuses f) : Raises p h f
  | range (hrange : ¬p.FiguresInRange h) : Raises p h .outOfRange
  | kind (hp : p = windows) (hkind : ¬h.MembersHave Host.textMembers Json.IsTextOrNothing) :
    Raises p h .wrongKind

end Platform

end HostReport
