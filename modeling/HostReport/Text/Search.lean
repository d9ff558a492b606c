import HostReport.Text.Blank

/-!
# Finding and replacing

Where a word stands in a text: containment, the parts on both sides of a separator, and
replacement from left to right without overlaps.
-/

namespace HostReport.Text

/-- Whether `w` stands somewhere in the text. -/
def contains (w : List Char) : List Char → Bool
  | [] => w.isEmpty
  | c :: cs => w.isPrefixOf (c :: cs) || contains w cs

/-- The parts before and after the first `sep`, if there is one. -/
def cut? (sep : Char) : List Char → Option (List Char × List Char)
  | [] => none
  | c :: cs => if c = sep then some ([], cs) else (cut? sep cs).map fun p => (c :: p.1, p.2)

/-- The part after the first occurrence of `w`, if there is one. -/
def after? (w : List Char) : List Char → Option (List Char)
  | [] => if w.isEmpty then some [] else none
  | c :: cs => if w.isPrefixOf (c :: cs) then some ((c :: cs).drop w.length) else after? w cs

/-- Replaces as `replace` does, after passing over `skip` characters of a word just replaced. -/
def replaceFrom (w new : List Char) : Nat → List Char → List Char
  | _, [] => []
  | skip + 1, _ :: cs => replaceFrom w new skip cs
  | 0, c :: cs =>
    if w.isPrefixOf (c :: cs) then new ++ replaceFrom w new (w.length - 1) cs
    else c :: replaceFrom w new 0 cs

/-- The text with every occurrence of the word `w` replaced by `new`, left to right; `w` is not
empty. -/
def replace (w new s : List Char) : List Char := replaceFrom w new 0 s

end HostReport.Text

namespace HostReport

/-- Whether `w` stands somewhere in `s`. -/
def containsWord (w s : String) : Bool := Text.contains w.toList s.toList

/-- Whether `s` begins with `w`. -/
def beginsWith (w s : String) : Bool := w.toList.isPrefixOf s.toList

/-- The text after the first colon of a line "key: value", without blanks around it. -/
def valueAfterColon (line : String) : String :=
  match Text.cut? ':' line.toList with
  | some (_, value) => strip (String.ofList value)
  | none => ""

end HostReport
