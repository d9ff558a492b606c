import HostReport.Host.Session
import HostReport.Report.SystemInfo

/-!
# Collectors

A collector looks at the host and writes what it finds into a record, field by field. If it fails,
what it has written before stays. Each collector starts from an empty record of its own, and the
records are put together afterwards.
-/

namespace HostReport

/-- A step that writes into a record. -/
abbrev Collector := ReaderT Host (ExceptT Fault (StateT SystemInfo (StateM Journal)))

instance : MonadLift HostM Collector where
  monadLift step := fun h => ExceptT.mk (StateT.lift (step h).run)

namespace Collector

/-- The value of a fact that may be a fault. -/
def ofExcept {α : Type} : Except Fault α → Collector α
  | .ok a => pure a
  | .error f => throw f

/-- Writes into the record. -/
def write (change : SystemInfo → SystemInfo) : Collector Unit := modifyThe SystemInfo change

/-- What a collector gives, and the record after it. -/
def runOn {α : Type} (c : Collector α) (info : SystemInfo) :
    HostM (Except Fault α × SystemInfo) :=
  fun h => ExceptT.lift ((c h).run.run info)

/-- What a collector writes into an empty record. A fault that a collector may have ends it; any
other fault goes on. -/
def part (c : Collector Unit) : HostM SystemInfo := do
  let (result, info) ← c.runOn {}
  match result with
  | .ok () => return info
  | .error f => if f.isOfCollector then return info else throw f

end Collector

end HostReport
