/-!
# Logging

Where records of a run go. They are shown on the error output only if logging is enabled; a run
keeps exactly one destination, however often it is set up.
-/

namespace HostReport

/-- The least severity of the records that are kept. -/
inductive Severity where
  | debug
  | warning
  deriving DecidableEq, Repr

namespace Severity

/-- The number of a severity. -/
def number : Severity → Nat
  | debug => 10
  | warning => 30

end Severity

/-- Where records go. -/
inductive LogTarget where
  /-- To the error output, laid out for a terminal. -/
  | terminal
  /-- Nowhere. -/
  | nowhere
  deriving DecidableEq, Repr

/-- The set-up of the log of a run. -/
structure Log where
  name : String := "hostbasics"
  targets : List LogTarget
  severity : Severity
  /-- Whether records go on to the log of the whole process. -/
  isShared : Bool := false
  deriving DecidableEq, Repr

/-- The log of a run, whose former targets are given up. -/
def Log.configure (isEnabled : Bool) : Log :=
  if isEnabled then { targets := [.terminal], severity := .debug }
  else { targets := [.nowhere], severity := .warning }

end HostReport
