import HostReport.Text.Letter

/-!
# Header fields

The header fields of a request, with names without regard to case: a field set again takes the place
of the earlier one.
-/

namespace HostReport

/-- Header fields, by names in lower case. -/
abbrev Headers := List (String × String)

namespace Headers

/-- Sets a field. -/
def set (name value : String) : Headers → Headers
  | [] => [(lowercase name, value)]
  | (n, v) :: r => if n = lowercase name then (n, value) :: r else (n, v) :: set name value r

/-- Sets fields in order. -/
def update (h : Headers) (fields : List (String × String)) : Headers :=
  fields.foldl (fun h f => h.set f.1 f.2) h

/-- The value of a field, empty if it is not set. -/
def valueOf (h : Headers) (name : String) : String := (h.lookup (lowercase name)).getD ""

/-- How browsers name themselves; some sources refuse anything else. -/
def browserAgents : List String :=
  ["Mozilla/5.0 (Windows NT 10.0; Win64; x64) AppleWebKit/537.36 (KHTML, like Gecko) " ++
      "Chrome/120.0 Safari/537.36",
    "Mozilla/5.0 (Windows NT 10.0; Win64; x64; rv:120.0) Gecko/20100101 Firefox/120.0",
    "Mozilla/5.0 (Macintosh; Intel Mac OS X 14_0) AppleWebKit/605.1.15 (KHTML, like Gecko) " ++
      "Version/17.0 Safari/605.1.15"]

/-- The fields of a plain request, which does not say who asks. -/
def plain : Headers := [("accept", "*/*"), ("connection", "keep-alive")]

/-- The fields that a browser sets. -/
def browser : List (String × String) :=
  [("User-Agent", browserAgents.headD ""),
    ("Accept", "text/html,application/xhtml+xml,application/json;q=0.9,*/*;q=0.8"),
    ("Accept-Language", "en-US,en;q=0.7"), ("Connection", "close")]

/-- Whether the request names itself as a browser. -/
def isBrowser (h : Headers) : Bool := browserAgents.contains (h.valueOf "User-Agent")

end Headers

end HostReport
