import HostReport.Text.Entry
import HostReport.Text.Letter

/-!
# Kinds of virtual machines

The display names of hypervisors and containers, and how a host tells which it runs under.
-/

namespace HostReport

/-- The identifiers of hypervisors and containers with their display names. -/
def virtualNames : List (String × String) :=
  [("kvm", "KVM"), ("xen", "Xen Hypervisor"), ("microsoft", "Microsoft Hyper-V"),
    ("vmware", "VMware"), ("oracle", "Oracle VirtualBox"), ("parallels", "Parallels"),
    ("qemu", "QEMU"), ("amazon", "Amazon Virtualization"), ("docker", "Docker"),
    ("openvz", "OpenVZ (Virutozzo)"), ("lxc", "LXC"), ("lxc-libvirt", "LXC (Based on libvirt)"),
    ("uml", "User-mode Linux"), ("systemd-nspawn", "Systemd nspawn"), ("bochs", "BOCHS"),
    ("rkt", "RKT"), ("zvm", "S390 Z/VM"), ("bhyve", "bhyve"),
    ("wsl", "Windows Subsystem for Linux"), ("none", "")]

/-- The display name for an identifier in either case, empty if it is unknown. -/
def virtualName (identifier : String) : String :=
  (virtualNames.lookup (lowercase (strip identifier))).getD ""

/-- The identifiers for what a kernel calls its hypervisor. -/
def guestIdentifiers : List (String × String) :=
  [("kvm", "kvm"), ("xen", "xen"), ("hv", "microsoft"), ("vmware", "vmware"), ("vbox", "oracle"),
    ("parallels", "parallels"), ("bhyve", "bhyve")]

/-- What a dedicated host is called. -/
def dedicated : String := "Dedicated (No visible signage)"

/-- The display name for what a kernel calls its hypervisor; a name of its own stands for itself. -/
def guestName (guest : String) : String :=
  if guest.isEmpty then ""
  else if guest = "none" then dedicated
  else
    let name := virtualName ((guestIdentifiers.lookup guest).getD guest)
    if name.isEmpty then guest else name

/-- A line without a word. -/
def without (word : String) (line : List Char) : List Char := Text.replace word.toList [] line

/-- The display name on a line about the family of a system, empty if it names none. -/
def familyName (line : List Char) : String :=
  if Text.contains "family".toList line then
    virtualName (String.ofList (without ":" (without "family" line)))
  else ""

/-- The display name for the family in a listing of firmware tables, empty if it names none. -/
def familyOfListing (listing : String) : String :=
  (((Text.lines (Text.lower listing.toList)).map familyName).find? (!·.isEmpty)).getD ""

/-- The kind that the types of a system and of a build of its operating system tell. -/
def kindOfTypes (systemType buildType : String) : String :=
  let both := systemType ++ " " ++ buildType
  if containsWord "Multiprocessor Free" both then "Physical-Machine(Multiprocessor Free)"
  else if containsWord "Virtual Machine" both then "Hyper-V(Virtual Machine)"
  else if containsWord "VMware" both then "VMware"
  else if !systemType.isEmpty && !buildType.isEmpty then s!"{systemType}({buildType})"
  else systemType ++ buildType

/-! ## Macs -/

/-- The hardware profile of a Mac: values by key. -/
abbrev MacProfile := List (String × String)

namespace MacProfile

/-- Reads a hardware profile, in which the first value for a key counts. -/
def ofText (text : String) : MacProfile :=
  firstEntries [] ((entriesOf ':' text).filter fun e => !e.1.isEmpty && !e.2.isEmpty)

/-- The value for a key, empty if there is none. -/
def value (p : MacProfile) (key : String) : String := (p.lookup key).getD ""

/-- The keys whose values tell the maker. -/
def makerKeys : List String :=
  ["Model Name", "Model Identifier", "Chip", "Manufacturer", "Vendor"]

/-- Words that only virtual hardware has in its profile. -/
def virtualMarks : List String :=
  ["vmware", "virtualbox", "parallels", "qemu", "microsoft", "xen"]

/-- How the names of models begin that are real hardware. -/
def physicalModels : List String :=
  ["mac mini", "macbook pro", "macbook air", "imac", "mac studio", "mac pro"]

/-- Whether a Mac is virtual or real hardware, or else the name of its model. -/
def kind (p : MacProfile) : String :=
  let model := p.value "Model Name"
  let maker := lowercase (" ".intercalate (makerKeys.map p.value))
  if virtualMarks.any fun mark => containsWord mark maker then "virtual"
  else if physicalModels.any fun front => beginsWith front (lowercase model) then "Physical"
  else if model.isEmpty then "Unknown"
  else model

end MacProfile

end HostReport
