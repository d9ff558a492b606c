import HostReport.Text.Quoted

/-!
# Words of a command line

A line is split into words at blanks. Within apostrophes every character stands for itself; within
double quotes so does every character but the quote and a backslash before one of these two; outside
of quotes a backslash makes the next character part of the word. Quotes may surround any part of a
word, and a word may be empty if it is quoted. A quote that is not closed and a backslash at the end
are errors.
-/

namespace HostReport.Text.ShellWord

/-- Where in a line a reader stands. -/
inductive Place where
  /-- Between words. -/
  | gap
  /-- In a word, outside of quotes. -/
  | word
  /-- Behind a backslash outside of quotes. -/
  | escaped
  /-- Within apostrophes. -/
  | single
  /-- Within double quotes. -/
  | double
  /-- Behind a backslash within double quotes. -/
  | doubleEscaped
  deriving DecidableEq, Repr

/-- A character that separates words. -/
def isGap (c : Char) : Bool := c == ' ' || c == '\t' || c == '\r' || c == '\n'

/-- What a character outside of quotes does: the place behind it, and whether it belongs to the
word. -/
def enter (c : Char) : Place × Bool :=
  if c = '\\' then (.escaped, false)
  else if c = apostrophe then (.single, false)
  else if c = '"' then (.double, false)
  else (.word, true)

/-- The words of what follows a place, where `w` is the part of the word before it, reversed. -/
def splitAt : Place → List Char → List Char → Option (List (List Char))
  | .gap, _, [] => some []
  | .word, w, [] => some [w.reverse]
  | _, _, [] => none
  | .gap, _, c :: r =>
    if isGap c then splitAt .gap [] r
    else splitAt (enter c).1 (if (enter c).2 then [c] else []) r
  | .word, w, c :: r =>
    if isGap c then (splitAt .gap [] r).map (w.reverse :: ·)
    else splitAt (enter c).1 (if (enter c).2 then c :: w else w) r
  | .escaped, w, c :: r => splitAt .word (c :: w) r
  | .single, w, c :: r =>
    if c = apostrophe then splitAt .word w r else splitAt .single (c :: w) r
  | .double, w, c :: r =>
    if c = '"' then splitAt .word w r
    else if c = '\\' then splitAt .doubleEscaped w r
    else splitAt .double (c :: w) r
  | .doubleEscaped, w, c :: r =>
    if c = '\\' ∨ c = '"' then splitAt .double (c :: w) r else splitAt .double (c :: '\\' :: w) r

/-- The words of a line, or nothing if a quote is open or a backslash stands at the end. -/
def split (line : List Char) : Option (List (List Char)) := splitAt .gap [] line

end HostReport.Text.ShellWord
