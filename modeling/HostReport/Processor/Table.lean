import HostReport.Text.Entry

/-!
# Tables of processors

A table with a block of entries for each processor. Of every value the first that is not empty
counts, and the flags of all processors count together.
-/

namespace HostReport

/-- What a table of processors tells. -/
structure ProcessorTable where
  model : String
  cache : String
  /-- The clock in MHz. -/
  clock : String
  /-- All flags, each once. -/
  flags : List String
  deriving DecidableEq, Repr

namespace ProcessorTable

/-- The flags of an entry. -/
def flagsOfEntry (e : String × String) : List String :=
  if e.1 = "flags" || e.1 = "Features" then wordsOf e.2 else []

/-- Reads a table of processors. -/
def ofText (text : String) : ProcessorTable :=
  let entries := entriesOf ':' text
  { model := firstValue "model name" entries
    cache := firstValue "cache size" entries
    clock := firstValue "cpu MHz" entries
    flags := (entries.flatMap flagsOfEntry).eraseDups }

/-- Whether a processor has a flag. -/
def has (t : ProcessorTable) (flag : String) : Bool := t.flags.contains flag

end ProcessorTable

end HostReport
