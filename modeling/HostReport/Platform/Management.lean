import HostReport.Host.Session
import HostReport.Json.Display
import HostReport.Text.Blank

/-!
# Management objects and registry

Rows of management classes, whose members may be missing or of any kind, and flags in a registry.
-/

namespace HostReport

/-- The rows of a management class; none if it cannot be asked. -/
def managementRows (name : String) : HostM (List Row) := do
  return (((← read).management.getD []).lookup name).getD []

/-- The first row of a management class. -/
def firstRow? (name : String) : HostM (Option Row) := do return (← managementRows name).head?

namespace Row

/-- The member of a row, which must have it. -/
def member (r : Row) (name : String) : Except Fault Json :=
  match r.lookup name with
  | some v => .ok v
  | none => .error .missingMember

/-- The text of a value with single blanks; what counts as nothing is an empty text, and anything
else is a fault. -/
def spacedText : Json → Except Fault String
  | .text s => .ok (collapseBlanks s)
  | v => if v.isTruthy then .error .wrongKind else .ok ""

/-- The text of a member, if the member counts as something. -/
def text? (r : Row) (name : String) : Except Fault (Option String) := do
  let v ← r.member name
  if v.isTruthy then return some (← spacedText v) else return none

/-- The text of a member that may be missing. -/
def textOrEmpty (r : Row) (name : String) : Except Fault String :=
  match r.lookup name with
  | some v => spacedText v
  | none => .ok ""

/-- The texts of a member of all rows in which it counts as something. -/
def texts (rows : List Row) (name : String) : Except Fault (List String) := do
  return (← rows.mapM fun r => text? r name).filterMap id

end Row

/-- Whether a registry value holds the digit one. -/
def registryFlag (key name : String) : HostM Bool := do
  match ((← read).registry.lookup key).bind (·.lookup name) with
  | some data => return data.display.toList.contains '1'
  | none => return false

end HostReport
