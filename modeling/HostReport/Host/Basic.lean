import HostReport.Bytes
import HostReport.Fault
import HostReport.Json.Reader
import HostReport.Quantity

/-!
# A host

Everything that a report looks at outside itself, as data: the name of the platform, files,
commands, figures of the operating system, network interfaces, the answers of remote sources and of
STUN servers. Where a fact can be asked for more than once and may change, it is a script: a list of
answers given one after another, of which the last is repeated.
-/

namespace HostReport

/-- How a command ends. -/
inductive CommandResult where
  /-- There is no such command. -/
  | missing
  /-- It runs to its end with this status. -/
  | exited (status : Int) (output errors : String)
  /-- It is stopped when its time is over, having printed this. -/
  | stopped (output : String)
  deriving DecidableEq, Repr

/-- The answer to a request. -/
inductive HttpReply where
  | answered (status : Int) (reason body : String)
  | failed (reason : String)
  /-- There is none, as the library that makes requests gives up with a fault that is no failure of
  the connection. -/
  | raised (fault : Fault)
  deriving DecidableEq, Repr

/-- Something that reaches a socket a while after the one before it: a datagram, or an error. -/
structure Arrival where
  bytes : Bytes
  delay : Binary64 := 0
  isError : Bool := false
  /-- Whether the bytes arrive as they are, without the transaction id of the request. -/
  isVerbatim : Bool := false

/-- What follows a datagram sent to a server: an error, or arrivals. -/
inductive Round where
  | refused
  | arrivals (events : List Arrival)

/-- Twelve bytes that tell one STUN transaction from another. -/
structure TransactionId where
  bytes : Bytes
  length_bytes : bytes.length = 12
  deriving DecidableEq

/-- The transaction id that holds a number. -/
def TransactionId.ofNat (n : Nat) : TransactionId := ⟨Bytes.ofNat 12 n, Bytes.length_ofNat 12 n⟩

/-- The kind of an address of a network interface. -/
inductive AddressKind where
  | link
  | inet
  | inet6
  deriving DecidableEq, Repr

/-- A network interface and its addresses. -/
structure Interface where
  name : String
  addresses : List (AddressKind × String)
  deriving DecidableEq, Repr

/-- A mounted filesystem. -/
structure Partition where
  device : String
  mountpoint : String
  fstype : String
  deriving DecidableEq, Repr

/-- Bytes of a filesystem. -/
structure Usage (α : Type := Quantity) where
  total : α
  used : α
  deriving DecidableEq

instance : Coe (Usage Int) Usage := ⟨fun u => ⟨u.total, u.used⟩⟩

/-- Bytes of memory. -/
structure Memory where
  total : Quantity
  available : Quantity
  deriving DecidableEq

/-- Mean loads over one, five and fifteen minutes. -/
abbrev Loads := Quantity × Quantity × Quantity

instance : Coe (Binary64 × Binary64 × Binary64) Loads := ⟨fun l => (l.1, l.2.1, l.2.2)⟩

/-- A value stands for a fact that is known. -/
instance {α : Type} : CoeTail α (Except Fault α) := ⟨.ok⟩

/-- What tells doubles tells figures. -/
instance coeTold {α β γ : Type} [Coe β γ] : CoeTail (α → β) (α → γ) := ⟨fun tell a => tell a⟩

/-- What the user does when asked for a line. -/
inductive Keyboard where
  | line
  | closed
  | interrupt
  deriving DecidableEq, Repr

/-- A row of a management class: members by name. -/
abbrev Row := List (String × Json)

/-- The facts of a host. -/
structure Host where
  /-- The name of the platform, such as `Linux`. -/
  system : String := "Linux"
  release : String := ""
  version : String := ""
  machine : String := ""
  processor : String := ""
  /-- The release of macOS, empty elsewhere. -/
  macRelease : String := ""
  /-- Readable files by path. -/
  files : List (String × Bytes) := []
  /-- Paths that exist besides the readable files. -/
  existing : List String := []
  /-- The targets of links. -/
  links : List (String × String) := []
  /-- Executables found by name on the search path. -/
  tools : List (String × String) := []
  /-- Files in the directories of administration tools, and whether they can be run. -/
  binaries : List (String × Bool) := []
  /-- Commands by their words joined with single spaces. -/
  commands : List (String × List CommandResult) := []
  cpuCount : Except Fault (Option Int) := .ok none
  memory : Except Fault Memory := .error .unavailable
  swap : Except Fault Usage := .ok ⟨0, 0⟩
  bootTime : Except Fault Quantity := .error .unavailable
  loadAverage : Except Fault Loads := .error .unavailable
  partitions : Except Fault (List Partition) := .ok []
  allPartitions : Except Fault (List Partition) := .ok []
  usage : List (String × Except Fault Usage) := []
  /-- The seconds since the epoch. -/
  now : Binary64 := 0
  /-- The abbreviation of the time zone. -/
  zone : String := ""
  interfaces : Except Fault (List Interface) := .ok []
  /-- Which interfaces are up. -/
  interfacesUp : List (String × Bool) := []
  interfaceIndex : List (String × Int) := []
  /-- Answers by address family and location, with a space between them. -/
  http : List (String × List HttpReply) := []
  /-- The fault with which the library that makes requests refuses a time limit, none if it takes
  it. -/
  requestRefusal : Binary64 → Option Fault := fun _ => none
  /-- How many arrays and objects may enclose each other in a JSON text that is read. -/
  maxNesting : Nat := Json.usualNesting
  environment : List (String × String) := []
  /-- Addresses with port that accept connections. -/
  reachable : List String := []
  names : List (String × String) := []
  /-- The address from which the host reaches the internet. -/
  localAddress : Option String := none
  /-- The fault with which a socket refuses a time limit, none if it takes it. Which times a socket
  can hold is up to the platform; here it holds all of them unless something else is said. -/
  timeRefusal : Binary64 → Option Fault := fun _ => none
  /-- The transaction id that is drawn first, second and so on, counted from one. -/
  transactionId : Nat → TransactionId := TransactionId.ofNat
  /-- What STUN servers answer, by address, port and request flags. -/
  stun : List (String × List Round) := []
  /-- What reaches the socket for router advertisements. -/
  advertisements : Except Fault (List Arrival) := .error .notPermitted
  /-- Management classes, if the host has any. -/
  management : Option (List (String × List Row)) := none
  /-- Values by registry key and name. -/
  registry : List (String × List (String × Json)) := []
  keyboard : Keyboard := .line

namespace Host

/-- What a table of texts holds under a key. -/
def find {α : Type} (table : List (String × α)) (key : String) : Option α := table.lookup key

/-- The answer of a script after `taken` earlier ones; the last is repeated. -/
def scripted? {α : Type} (script : List α) (taken : Nat) : Option α :=
  script[min taken (script.length - 1)]?

end Host

end HostReport
