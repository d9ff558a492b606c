import HostReport.Collector.Basic
import HostReport.Platform.Basic
import HostReport.Storage.Listing
import HostReport.Text.Letter

/-!
# Disks

Size and use of all disks together, and where the system was started from. A device counts once,
with the first of its partitions that has a filesystem of the usual kinds; one that cannot be
measured counts as nothing. If nothing is counted, Linux lists the root filesystem.
-/

namespace HostReport

/-- Size and use of two filesystems together. -/
def Usage.add (u v : Usage) : Except Fault Usage := do
  return ⟨← u.total.add v.total, ← u.used.add v.used⟩

/-- Whether size and use are both zero. -/
def Usage.isNothing (u : Usage) : Bool := u.total.isZero && u.used.isZero

namespace Platform

/-- The kinds of filesystems that are counted. -/
def countedFilesystems : List String :=
  ["apfs", "ext4", "ext3", "ext2", "f2fs", "reiserfs", "jfs", "btrfs", "fuseblk", "zfs", "simfs",
    "ntfs", "fat32", "exfat", "xfs", "fuse.rclone"]

/-- Where containers mount filesystems that are not counted. -/
def containerMounts : String := "/var/lib/kubelet"

/-- Whether a partition may be counted. -/
def isCounted (p : Partition) : Bool :=
  let fstype := lowercase p.fstype
  !containsWord containerMounts p.mountpoint && countedFilesystems.any (containsWord · fstype)

/-- The first partition of each device. -/
def firstOfDevices : List String → List Partition → List Partition
  | _, [] => []
  | devices, p :: ps =>
    if devices.contains p.device then firstOfDevices devices ps
    else p :: firstOfDevices (p.device :: devices) ps

/-- The partitions that are counted. -/
def countedPartitions (partitions : List Partition) : List Partition :=
  firstOfDevices [] (partitions.filter isCounted)

/-- Size and use of a filesystem; nothing if the operating system cannot tell. -/
def usageOrNothing (mountpoint : String) : HostM Usage :=
  HostM.orElseOn Fault.isSystem (Host.diskUsage mountpoint) (pure ⟨0, 0⟩)

/-- Size and use of several filesystems together, each added as soon as it is measured. -/
def totalUsage (partitions : List Partition) : HostM Usage :=
  partitions.foldlM
    (fun sum p => do HostM.ofExcept (sum.add (← usageOrNothing p.mountpoint))) ⟨0, 0⟩

/-- Size and use of the root filesystem, where it may be one that is not counted. -/
def rootUsage : Platform → HostM (Usage Int)
  | linux => do
    let (total, used) := rootOfListing (← Host.outputOf ["df"] true)
    return ⟨total, used⟩
  | _ => return ⟨0, 0⟩

/-- What is counted, or else size and use of the root filesystem. -/
def usageOrRoot (p : Platform) (counted : Usage) : HostM Usage := do
  if counted.isNothing then return ← p.rootUsage else return counted

/-- The mount point of the first filesystem of the list that has a size, empty if there is none. -/
def firstSized : List Partition → HostM String
  | [] => return ""
  | p :: ps => do
    if p.fstype = "tmpfs" then firstSized ps
    else if (← usageOrNothing p.mountpoint).total.isPositive then return p.mountpoint
    else firstSized ps

/-- Where the system was started from. -/
def bootPath : HostM String := do firstSized (← HostM.ofExcept (← read).allPartitions)

/-- Writes size and use of the disks. -/
def writeUsage (usage : Usage) : Collector Unit := do
  let total ← Collector.ofExcept (sizeText usage.total)
  Collector.write fun i => { i with diskTotal := total }
  let used ← Collector.ofExcept (sizeText usage.used)
  Collector.write fun i => { i with diskUsage := used }

/-- Writes where the system was started from. -/
def writeBootPath : Collector Unit := do
  let path ← bootPath
  Collector.write fun i => { i with bootPath := path }

/-- Collects the facts of disks. -/
def collectDisk (p : Platform) : Collector Unit := do
  let partitions ← Collector.ofExcept (← read).partitions
  let counted ← totalUsage (countedPartitions partitions)
  writeUsage (← p.usageOrRoot counted)
  writeBootPath

end Platform

end HostReport
