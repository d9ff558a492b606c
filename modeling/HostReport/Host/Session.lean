import HostReport.Host.Basic
import HostReport.Text.Utf8
import HostReport.Text.Search

/-!
# A run on a host

A run looks at one host and leaves a journal: which answers of which scripts have been taken, the
clock, what was requested, sent and probed, and which sources were asked. `HostM` is the type of its
steps, each of which may fail; the journal is kept also by a step that fails.
-/

namespace HostReport

/-- A request that was made, with what distinguishes it. -/
structure HttpRequest where
  family : String
  url : String
  isBrowser : Bool
  referer : String
  retries : Int
  timeout : Binary64

/-- An option that is set on a socket. -/
inductive SocketOption where
  | bindToDevice (interface : String)
  | hopLimit (n : Nat)
  deriving DecidableEq, Repr

/-- What a socket is told to do. -/
inductive WireAction where
  | option (o : SocketOption)
  | sent (host : String) (port : Int) (bytes : Bytes)
  deriving DecidableEq, Repr

/-- A question that was put to a source. -/
inductive Consultation where
  /-- Asked for the public identity of a family. -/
  | identity (source family : String)
  /-- Asked for the network that holds an address. -/
  | network (source ip family : String)
  /-- Asked for the sources of prefix lengths of an interface. -/
  | interface (name : String)
  /-- Asked for a prefix length. -/
  | prefixLength (source : String)
  deriving DecidableEq, Repr

/-- The journal of a run, in the order of events. -/
structure Journal where
  /-- The clock of timeouts, in seconds. -/
  clock : Binary64 := 1000
  /-- How many transaction ids were drawn. -/
  transactions : Nat := 0
  commandsTaken : List String := []
  repliesTaken : List String := []
  roundsTaken : List String := []
  requests : List HttpRequest := []
  wire : List WireAction := []
  /-- Addresses with port to which connections were tried. -/
  probes : List (String × String) := []
  consultations : List Consultation := []
  sleeps : Nat := 0
  /-- The hardware profile of a Mac, once read. -/
  macProfile : Option (List (String × String)) := none

/-- The journal when the host has new scripts of commands, which begin at their first results. -/
def Journal.restartCommands (j : Journal) : Journal := { j with commandsTaken := [] }

/-- A step of a run, which may fail. -/
abbrev HostM := ReaderT Host (ExceptT Fault (StateM Journal))

namespace HostM

/-- The value of a fact that may be a fault. -/
def ofExcept {α : Type} : Except Fault α → HostM α
  | .ok a => pure a
  | .error f => throw f

/-- What a step gives, with its fault as a value. -/
def attempt {α : Type} (step : HostM α) : HostM (Except Fault α) :=
  tryCatch (Except.ok <$> step) (pure ∘ Except.error)

/-- The step, or `otherwise` after a fault of the kind `tolerated`. -/
def orElseOn {α : Type} (tolerated : Fault → Bool) (step : HostM α) (otherwise : HostM α) :
    HostM α :=
  tryCatch step fun f => if tolerated f then otherwise else throw f

/-- Notes a question to a source. -/
def consult (c : Consultation) : HostM Unit :=
  modify fun j => { j with consultations := j.consultations ++ [c] }

/-- What all of the steps give. Each of them is made; the first fault counts. -/
def all {α : Type} (steps : List (HostM α)) : HostM (List α) := do
  (← steps.mapM attempt).mapM ofExcept

end HostM

namespace Host

/-- What a text denotes in JSON, if it is not nested more deeply than can be read. -/
def parseJson (text : String) : HostM (Except Json.ReadFault Json) := do
  return Json.parse text (← read).maxNesting

/-- The text of a file, empty if it cannot be read. -/
def readText (path : String) : HostM String := do
  match find (← read).files path with
  | some bytes => return String.ofList (Text.plainNewlines (Text.Utf8.decode bytes))
  | none => return ""

/-- Whether a path exists. -/
def pathExists (path : String) : HostM Bool := do
  let h ← read
  return (find h.files path).isSome || h.existing.contains path

/-- The target of a path, itself if it is no link. -/
def realPath (path : String) : HostM String := do
  return (find (← read).links path).getD path

/-- The directories searched for administration tools that are often not on the search path. -/
def toolDirectories : List String :=
  ["/usr/local/bin", "/usr/local/sbin", "/usr/bin", "/usr/sbin", "/sbin", "/bin", "/snap/bin"]

/-- A name within a directory; an absolute path stands for itself. -/
def joinPath (directory name : String) : String :=
  if beginsWith "/" name then name else directory ++ "/" ++ name

/-- The path of an executable, on the search path or in the directories of administration tools. -/
def findTool (name : String) : HostM (Option String) := do
  let h ← read
  match find h.tools name with
  | some path => if path.isEmpty then return inDirectories h else return some path
  | none => return inDirectories h
where
  inDirectories (h : Host) : Option String :=
    (toolDirectories.map (joinPath · name)).find? fun p => (find h.binaries p).getD false

/-- The result of a command given by its words. -/
def runCommand (words : List String) : HostM CommandResult := do
  let key := " ".intercalate words
  let h ← read
  let j ← getModify fun j => { j with commandsTaken := j.commandsTaken ++ [key] }
  match find h.commands key with
  | some script => return (scripted? script (j.commandsTaken.count key)).getD .missing
  | none => return .missing

/-- The output of a command that succeeds, followed by its errors if they are wanted; empty if it is
missing, fails or takes too long. -/
def outputOf (words : List String) (withErrors : Bool := false) : HostM String := do
  match ← runCommand words with
  | .exited 0 output errors => return if withErrors then output ++ errors else output
  | _ => return ""

/-- What a command prints that may have to be stopped; its status does not matter. -/
def outputUntilStopped (words : List String) : HostM String := do
  match ← runCommand words with
  | .exited _ output _ => return output
  | .stopped output => return output
  | .missing => return ""

/-- Waits for a second. -/
def sleep : HostM Unit := modify fun j => { j with sleeps := j.sleeps + 1 }

/-- The bytes of the filesystem mounted at a path. -/
def diskUsage (mountpoint : String) : HostM Usage := do
  match find (← read).usage mountpoint with
  | some u => HostM.ofExcept u
  | none => throw .unavailable

end Host

end HostReport
