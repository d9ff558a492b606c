import HostReport.Text.Columns

/-!
# Text on a terminal

How a text is written to the standard output: control characters that would move the cursor are left
out, and a tab is written as one space and further ones up to a column that is a multiple of eight.
-/

namespace HostReport.Text

/-- A control character that is left out: bell, backspace, vertical tab, form feed and carriage
return. -/
def isCursorControl (c : Char) : Bool := [7, 8, 11, 12, 13].contains c.toNat

/-- The columns between two tab stops. -/
def tabSize : Nat := 8

/-- The spaces for a tab behind a text that begins at a tab stop. -/
def tabSpaces (before : List Char) : List Char :=
  let used := columns (before ++ [' ']) % tabSize
  ' ' :: List.replicate ((tabSize - used) % tabSize) ' '

/-- The text with its tabs as spaces; `before`, in reverse, is what stands between the last tab stop
and the text. -/
def expandTabs (before : List Char) : List Char → List Char
  | [] => []
  | c :: cs =>
    if c = '\n' then c :: expandTabs [] cs
    else if c = '\t' then tabSpaces before.reverse ++ expandTabs [] cs
    else c :: expandTabs (c :: before) cs

end HostReport.Text

namespace HostReport

/-- A text as it is written to the standard output. -/
def onTerminal (s : String) : String :=
  String.ofList (Text.expandTabs [] (s.toList.filter fun c => !Text.isCursorControl c))

end HostReport
