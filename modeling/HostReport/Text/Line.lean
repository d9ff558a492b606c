/-!
# Lines

A text is a sequence of lines, each ended by one of the Unicode line breaks; the last line may lack
its break, and a break at the very end opens no further line. A carriage return followed by a line
feed is one break.
-/

namespace HostReport.Text

/-- A character that ends a line. -/
def isLineBreak (c : Char) : Bool :=
  let n := c.toNat
  (10 ≤ n && n ≤ 13) || (28 ≤ n && n ≤ 30) || n == 0x85 || n == 0x2028 || n == 0x2029

/-- The lines of a text, without their breaks. -/
def lines : List Char → List (List Char)
  | [] => []
  | '\r' :: '\n' :: r => [] :: lines r
  | c :: r =>
    if isLineBreak c then [] :: lines r
    else
      match lines r with
      | [] => [[c]]
      | l :: ls => (c :: l) :: ls

end HostReport.Text

namespace HostReport

/-- The lines of a text, without their breaks. -/
def linesOf (s : String) : List String := (Text.lines s.toList).map String.ofList

end HostReport
