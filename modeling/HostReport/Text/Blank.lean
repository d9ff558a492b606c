/-!
# Blank characters

The white space of Unicode together with the four information separators: what is cut from the ends
of a value and what separates words. `strip` cuts both ends, `words` are the maximal runs without
blanks, and `collapse` joins them by single spaces.
-/

namespace HostReport.Text

/-- The tab, the line and page breaks, the information separators and the Unicode spaces. -/
def isBlank (c : Char) : Bool :=
  let n := c.toNat
  (9 ≤ n && n ≤ 13) || (28 ≤ n && n ≤ 32) || n == 0x85 || n == 0xA0 || n == 0x1680 ||
    (0x2000 ≤ n && n ≤ 0x200A) || n == 0x2028 || n == 0x2029 || n == 0x202F || n == 0x205F ||
    n == 0x3000

/-- The text without the characters of the class `p` at its end. -/
def trimEnd (p : Char → Bool) : List Char → List Char
  | [] => []
  | c :: cs =>
    match trimEnd p cs with
    | [] => if p c then [] else [c]
    | r => c :: r

/-- The text without the characters of the class `p` at its start. -/
def trimStart (p : Char → Bool) (s : List Char) : List Char := s.dropWhile p

/-- The text without the characters of the class `p` at either end. -/
def trim (p : Char → Bool) (s : List Char) : List Char := trimEnd p (trimStart p s)

/-- The text without blanks at either end. -/
def strip (s : List Char) : List Char := trim isBlank s

/-- The maximal runs of characters that are not blank, in order. -/
def words (s : List Char) : List (List Char) := (s.splitOnP isBlank).filter (· ≠ [])

/-- The pieces joined with `sep` between neighbours. -/
def joinWith (sep : List Char) : List (List Char) → List Char
  | [] => []
  | [w] => w
  | w :: ws => w ++ sep ++ joinWith sep ws

/-- The words joined by single spaces. -/
def collapse (s : List Char) : List Char := joinWith [' '] (words s)

end HostReport.Text

namespace HostReport

/-- A text without blanks at either end. -/
def strip (s : String) : String := String.ofList (Text.strip s.toList)

/-- A text with every run of blanks written as one space, and none at the ends. -/
def collapseBlanks (s : String) : String := String.ofList (Text.collapse s.toList)

/-- The words of a text. -/
def wordsOf (s : String) : List String := (Text.words s.toList).map String.ofList

end HostReport
