import HostReport.Text.Entry
import HostReport.Text.Quoted

/-!
# Releases of an operating system

The name of the installed release: the one meant to be shown, or else name and version.
-/

namespace HostReport

/-- A value without the quotes around it. -/
def unquote (value : String) : String :=
  String.ofList (Text.trim (· == Text.apostrophe) (Text.trim (· == '"') value.toList))

/-- The last value for a key, without quotes; empty if there is none. -/
def releaseValue (key : String) (entries : List (String × String)) : String :=
  ((lastValue? (· = key) entries).map unquote).getD ""

/-- The name of the release that a release file describes. -/
def releaseOf (file : String) : String :=
  let entries := entriesOf '=' file
  let shown := releaseValue "PRETTY_NAME" entries
  if shown.isEmpty then
    collapseBlanks (releaseValue "NAME" entries ++ " " ++ releaseValue "VERSION_ID" entries)
  else shown

end HostReport
