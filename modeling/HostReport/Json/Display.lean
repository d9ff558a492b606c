import HostReport.Json.Basic
import HostReport.Number.Shortest
import HostReport.Text.Quoted

/-!
# Showing values

The text of a value as it is shown to people: a text is shown as it is, and between quotes within an
array or an object.
-/

namespace HostReport.Json

mutual

/-- The text of a value that stands within another. -/
def inner : Json → String
  | .null => "None"
  | .bool b => if b then "True" else "False"
  | .int n => toString n
  | .double x => x.toShortest
  | .text s => quoted s
  | .array items => "[" ++ ", ".intercalate (innerItems items) ++ "]"
  | .object fields => "\x7b" ++ ", ".intercalate (innerFields fields) ++ "\x7d"

/-- The texts of the items of an array. -/
def innerItems : List Json → List String
  | [] => []
  | v :: vs => inner v :: innerItems vs

/-- The texts of the fields of an object. -/
def innerFields : List (String × Json) → List String
  | [] => []
  | (name, v) :: fs => (quoted name ++ ": " ++ inner v) :: innerFields fs

end

/-- The text of a value. -/
def display : Json → String
  | .text s => s
  | v => inner v

end HostReport.Json
