import HostReport.Text.Blank
import HostReport.Text.Digit
import HostReport.Number.Binary64

/-!
# Numerals

How integers and decimal fractions are read from a text. Blanks around a numeral are passed over,
the information separators excepted; the decimal digits of every script count, and single
underscores may stand between digits. An integer of more than 4300 digits is neither read nor
written.
-/

namespace HostReport.Numeral

open Text

/-- The largest number of digits that an integer is read or written with. -/
def maxDigits : Nat := 4300

/-- The blanks that may stand around a numeral. -/
def isPadding (c : Char) : Bool := isBlank c && !(28 ≤ c.toNat && c.toNat ≤ 31)

/-- The sign at the front of a numeral, and what follows it. -/
def splitSign : List Char → Bool × List Char
  | '-' :: r => (true, r)
  | '+' :: r => (false, r)
  | s => (false, s)

/-- The digit values of a text that holds digits with single underscores between them. -/
def digitValues? : List Char → Option (List Nat)
  | [] => none
  | [c] => (decimalValue? c).map ([·])
  | c :: '_' :: r => do return (← decimalValue? c) :: (← digitValues? r)
  | c :: r => do return (← decimalValue? c) :: (← digitValues? r)

/-- The number that digit values denote. -/
def ofDigitValues (ds : List Nat) : Nat := ds.foldl (fun n d => 10 * n + d) 0

/-- The integer that a text denotes, or nothing if it denotes none or has too many digits. -/
def readInt? (s : List Char) : Option Int := do
  let (negative, digits) := splitSign (trim isPadding s)
  let ds ← digitValues? digits
  guard (ds.length ≤ maxDigits)
  let n := ofDigitValues ds
  return if negative then -n else n

/-- The decimal text of an integer, or nothing if it has too many digits. -/
def writeInt? (n : Int) : Option String :=
  if n.natAbs < Nat.pow 10 maxDigits then some (toString n) else none

/-- The text with its decimal digits as ASCII digits and without its underscores, or nothing if an
underscore does not stand between two digits. -/
def plainDigits? (afterDigit : Bool) : List Char → Option (List Char)
  | [] => some []
  | c :: r =>
    if c = '_' then
      if afterDigit && (r.head?.any isDecimal) then plainDigits? false r else none
    else
      match decimalValue? c with
      | some d => (plainDigits? true r).map (Char.ofNat (48 + d) :: ·)
      | none => (plainDigits? false r).map (c :: ·)

/-- The value of ASCII digits. -/
def ofAsciiDigits (ds : List Char) : Nat := ofDigitValues (ds.map fun c => c.toNat - 48)

/-- The power of ten that stands at the end of a decimal: nothing, or a mark, a sign and digits. -/
def exponent? : List Char → Option Int
  | [] => some 0
  | c :: r =>
    if c = 'e' || c = 'E' then
      let (negative, ds) := splitSign r
      if !ds.isEmpty && ds.all Char.isDigit then
        some (if negative then -(ofAsciiDigits ds) else ofAsciiDigits ds)
      else none
    else none

/-- The double that an unsigned decimal denotes: digits with at most one point among or around
them, and an optional power of ten. -/
def decimal? (negative : Bool) (s : List Char) : Option Binary64 := do
  let whole := s.takeWhile Char.isDigit
  let rest := s.dropWhile Char.isDigit
  let (fraction, tail) :=
    match rest with
    | '.' :: r => (r.takeWhile Char.isDigit, r.dropWhile Char.isDigit)
    | r => ([], r)
  guard (!(whole.isEmpty && fraction.isEmpty))
  let e ← exponent? tail
  return Binary64.ofDecimal negative (ofAsciiDigits (whole ++ fraction)) (e - fraction.length)

/-- The double that a text denotes: a decimal, an infinity or the word for what is no number, the
words in any case. -/
def readDouble? (s : List Char) : Option Binary64 := do
  let plain ← plainDigits? false (trim isPadding s)
  let (negative, rest) := splitSign plain
  let name := String.ofList (rest.map Char.toLower)
  if name = "inf" || name = "infinity" then return .infinite negative
  if name = "nan" then return .nan
  decimal? negative rest

end HostReport.Numeral
