import HostReport.Text.Line
import HostReport.Text.Search

/-!
# Entries

Many listings have one entry a line: a key, a separator and a value. Lines without the separator are
no entries. Which of several entries for one key counts depends on the listing: the first, the first
that has a value, or the last.
-/

namespace HostReport

/-- The key and the value on a line, both without blanks around them. -/
def entryOf? (separator : Char) (line : List Char) : Option (String × String) :=
  (Text.cut? separator line).map fun p =>
    (strip (String.ofList p.1), strip (String.ofList p.2))

/-- The entries of a listing in order. -/
def entriesOf (separator : Char) (listing : String) : List (String × String) :=
  (Text.lines listing.toList).filterMap (entryOf? separator)

/-- The first value for a key that is not empty; empty if there is none. -/
def firstValue (key : String) (entries : List (String × String)) : String :=
  ((entries.find? fun e => e.1 = key && !e.2.isEmpty).map (·.2)).getD ""

/-- The last value for a key of the class. -/
def lastValue? (isKey : String → Bool) (entries : List (String × String)) : Option String :=
  (entries.reverse.find? fun e => isKey e.1).map (·.2)

/-- The entries without those whose key has occurred before. -/
def firstEntries : List (String × String) → List (String × String) → List (String × String)
  | _, [] => []
  | before, e :: es =>
    if before.any (·.1 = e.1) then firstEntries before es else e :: firstEntries (e :: before) es

end HostReport
