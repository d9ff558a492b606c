import HostReport.Number.Binary64

/-!
# JSON values

Numbers written without a fraction and without an exponent are integers of any size, all others are
doubles. An object holds its fields in the order in which their names first occur, each name once.
-/

namespace HostReport

/-- A JSON value. -/
inductive Json where
  | null
  | bool (b : Bool)
  | int (n : Int)
  | double (x : Binary64)
  | text (s : String)
  | array (items : List Json)
  | object (fields : List (String × Json))

namespace Json

/-- The fields with the value of `name` set: in its place if it has one, else at the end. -/
def setField (name : String) (value : Json) : List (String × Json) → List (String × Json)
  | [] => [(name, value)]
  | (n, v) :: r => if n = name then (n, value) :: r else (n, v) :: setField name value r

/-- The field with this name. -/
def field? (name : String) (fields : List (String × Json)) : Option Json := fields.lookup name

/-- The member with this name, if the value is an object that has one. -/
def member? (name : String) : Json → Option Json
  | .object fields => field? name fields
  | _ => none

/-- The text that the value is, if it is one. -/
def text? : Json → Option String
  | .text s => some s
  | _ => none

/-- Whether a value counts as something: not null, false, zero or empty. -/
def isTruthy : Json → Bool
  | .null => false
  | .bool b => b
  | .int n => n ≠ 0
  | .double x => !x.isZero
  | .text s => !s.isEmpty
  | .array items => !items.isEmpty
  | .object fields => !fields.isEmpty

end Json

end HostReport
