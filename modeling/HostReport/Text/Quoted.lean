import HostReport.Text.Table.Printable
import HostReport.Text.Digit
import HostReport.Text.Letter

/-!
# Quoted texts

A text shown between quotes, as in an error message: apostrophes enclose it unless it holds an
apostrophe and no double quote. A backslash, the enclosing quote, and the line feed, carriage return
and tab are escaped by a backslash; every other character without a visible form is shown by its
number in two, four or eight hexadecimal digits.
-/

namespace HostReport.Text

/-- The apostrophe. -/
def apostrophe : Char := Char.ofNat 39

/-- Whether a character has a visible form. -/
def isVisible (c : Char) : Bool :=
  let n := c.toNat
  if n < 128 then 32 ≤ n && n < 127 else !inRanges hiddenRanges n

/-- The characters that stand for `c` between two quotes `q`. -/
def escape (q c : Char) : List Char :=
  if c = '\\' || c = q then ['\\', c]
  else if c = '\n' then ['\\', 'n']
  else if c = '\r' then ['\\', 'r']
  else if c = '\t' then ['\\', 't']
  else if isVisible c then [c]
  else if c.toNat < 0x100 then ['\\', 'x'] ++ hexDigits 2 c.toNat
  else if c.toNat < 0x10000 then ['\\', 'u'] ++ hexDigits 4 c.toNat
  else ['\\', 'U'] ++ hexDigits 8 c.toNat

/-- The text between quotes. -/
def quote (s : List Char) : List Char :=
  let q := if s.contains apostrophe && !s.contains '"' then '"' else apostrophe
  q :: s.flatMap (escape q) ++ [q]

end HostReport.Text

namespace HostReport

/-- A text between quotes, with what is not visible shown by its number. -/
def quoted (s : String) : String := String.ofList (Text.quote s.toList)

end HostReport
