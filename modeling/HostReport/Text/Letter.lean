import HostReport.Text.Table.Alphanumeric
import HostReport.Text.Table.Lowercase
import HostReport.Text.Table.Casing

/-!
# Letters

Lower-case forms of whole texts, and comparison of single letters without regard to case. One
capital has a lower-case form of two characters (a dotted capital I), and a capital sigma becomes a
final sigma exactly where it ends a word: a letter with case stands before it and none after it,
ignorable characters passed over.
-/

namespace HostReport.Text

/-- Whether `n` lies in one of the closed ranges. -/
def inRanges (ranges : List (Nat × Nat)) (n : Nat) : Bool :=
  ranges.any fun r => r.1 ≤ n && n ≤ r.2

/-- A letter, a number or an underscore. -/
def isWordChar (c : Char) : Bool :=
  if c.toNat < 128 then c.isAlphanum || c == '_' else inRanges alphanumericRanges c.toNat

/-- The lower-case form of a character, where that is a single character and needs no context. -/
def lowerChar (c : Char) : Char :=
  let n := c.toNat
  if n < 128 then c.toLower
  else
    match lowercaseRuns.find? fun r => r.1 ≤ n && n ≤ r.2.1 && (n - r.1) % r.2.2.1 == 0 with
    | some (first, _, _, low) => Char.ofNat (low + (n - first))
    | none => c

/-- Whether the first character that is not passed over has case. -/
def meetsCased (s : List Char) : Bool :=
  match s.dropWhile fun c => inRanges caseIgnorableRanges c.toNat with
  | [] => false
  | c :: _ => inRanges casedRanges c.toNat

/-- The lower-case form of `c`, which stands between `before` (reversed) and `after`. -/
def lowerAt (before : List Char) (c : Char) (after : List Char) : List Char :=
  if c.toNat = 0x3A3 then
    [Char.ofNat (if meetsCased before && !meetsCased after then 0x3C2 else 0x3C3)]
  else if c.toNat = 0x130 then ['i', Char.ofNat 0x307]
  else [lowerChar c]

/-- The lower-case form of a text that follows the characters `before` (reversed). -/
def lowerFrom (before : List Char) : List Char → List Char
  | [] => []
  | c :: cs => lowerAt before c cs ++ lowerFrom (c :: before) cs

/-- The lower-case form of a text. -/
def lower (s : List Char) : List Char := lowerFrom [] s

/-- Whether `c` is the ASCII letter `letter` in either case, or one of the three other characters
that have its case forms: the dotless and the dotted I, the long S and the Kelvin sign. A character
that is no letter equals itself only. -/
def sameLetter (letter c : Char) : Bool :=
  let l := letter.toLower
  c.toLower == l || (l == 'i' && (c.toNat == 0x131 || c.toNat == 0x130)) ||
    (l == 's' && c.toNat == 0x17F) || (l == 'k' && c.toNat == 0x212A)

/-- Whether the capital form of `c` is the ASCII capital `capital`. -/
def capitalIs (capital c : Char) : Bool :=
  c == capital || c == capital.toLower || (capital == 'I' && c.toNat == 0x131) ||
    (capital == 'S' && c.toNat == 0x17F)

/-- Whether the capital form of `c` begins with the ASCII capital `capital`: as `capitalIs`, and for
S also the sharp S and the ligatures of S and T, whose capital forms have two letters. -/
def capitalBegins (capital c : Char) : Bool :=
  capitalIs capital c ||
    (capital == 'S' && (c.toNat == 0xDF || c.toNat == 0xFB05 || c.toNat == 0xFB06))

end HostReport.Text

namespace HostReport

/-- The lower-case form of a text. -/
def lowercase (s : String) : String := String.ofList (Text.lower s.toList)

end HostReport
