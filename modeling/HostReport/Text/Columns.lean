import HostReport.Text.Table.Width
import HostReport.Text.Letter

/-!
# Columns

How many columns of a terminal a text takes: those of its characters, except that a joiner draws
the character behind it into the one before, and a selector of colour widens a pictograph.
-/

namespace HostReport.Text

/-- The columns that a character takes. -/
def charColumns (c : Char) : Nat :=
  let n := c.toNat
  if 32 ≤ n && n < 127 then 1
  else if inRanges zeroWidthRanges n then 0
  else if inRanges wideRanges n then 2
  else 1

/-- The character that joins its neighbours into one. -/
def joiner : Char := Char.ofNat 0x200d

/-- The character that asks for the one before it as a coloured pictograph. -/
def colourSelector : Char := Char.ofNat 0xfe0f

/-- The columns that a text takes behind the character `last`, the last one that takes any and is
not asked to be in colour yet. -/
def columnsFrom (last : Option Char) : List Char → Nat
  | [] => 0
  | c :: cs =>
    if c = joiner then
      match cs with
      | [] => 0
      | _ :: more => columnsFrom last more
    else if c = colourSelector then
      (if last.any fun l => inRanges widenedRanges l.toNat then 1 else 0) + columnsFrom none cs
    else
      charColumns c + columnsFrom (if charColumns c = 0 then last else some c) cs

/-- The columns that a text takes. -/
def columns (s : List Char) : Nat := columnsFrom none s

end HostReport.Text
