import HostReport.Fault
import HostReport.Number.Numeral

/-!
# Character references

References in attribute values: by number, decimal or hexadecimal, with or without a semicolon, and
by name. Of the names only those are known that denote a blank or a character of a prefix link; a
reference by any other name stays as it is written, and neither form of it can be part of a prefix
link or of one of the class names looked for. A decimal reference with more digits than an integer
is read with is malformed.
-/

namespace HostReport.Page

/-- The characters that the numbers 128 to 159 denote, after an older encoding of text. -/
def legacyCodes : List Nat :=
  [0x20ac, 0x81, 0x201a, 0x192, 0x201e, 0x2026, 0x2020, 0x2021, 0x2c6, 0x2030, 0x160, 0x2039, 0x152,
    0x8d, 0x17d, 0x8f, 0x90, 0x2018, 0x2019, 0x201c, 0x201d, 0x2022, 0x2013, 0x2014, 0x2dc, 0x2122,
    0x161, 0x203a, 0x153, 0x9d, 0x17e, 0x178]

/-- Numbers that denote no character of a page: controls other than blanks, and code points that
are never characters. -/
def isVoidCode (n : Nat) : Bool :=
  (1 ≤ n && n ≤ 8) || n == 11 || (14 ≤ n && n ≤ 31) || n == 127 || (0xFDD0 ≤ n && n ≤ 0xFDEF) ||
    n % 0x10000 == 0xFFFE || n % 0x10000 == 0xFFFF

/-- What a reference by number stands for. -/
def ofCode (n : Nat) : List Char :=
  if n = 0 ∨ (0xD800 ≤ n ∧ n ≤ 0xDFFF) ∨ 0x10FFFF < n then [Char.ofNat 0xFFFD]
  else if 128 ≤ n ∧ n ≤ 159 then [Char.ofNat (legacyCodes.getD (n - 128) n)]
  else if isVoidCode n then []
  else [Char.ofNat n]

/-- The references by name that denote a blank or a character of a prefix link. -/
def names : List (String × Nat) :=
  [("Tab;", 0x9), ("NewLine;", 0xA), ("sol;", 0x2F), ("period;", 0x2E), ("nbsp;", 0xA0),
    ("NonBreakingSpace;", 0xA0), ("ensp;", 0x2002), ("emsp;", 0x2003), ("emsp13;", 0x2004),
    ("emsp14;", 0x2005), ("numsp;", 0x2007), ("puncsp;", 0x2008), ("thinsp;", 0x2009),
    ("ThinSpace;", 0x2009), ("hairsp;", 0x200A), ("VeryThinSpace;", 0x200A),
    ("MediumSpace;", 0x205F), ("ThickSpace;", 0x205F), ("nbsp", 0xA0)]

/-- A reference by name at the front, after its ampersand: its character and what follows. -/
def named? (s : List Char) : Option (List Char × List Char) :=
  names.findSome? fun (name, code) =>
    (name.toList.isPrefixOf? s).map fun r => ([Char.ofNat code], r)

/-- The text without a semicolon at its front. -/
def dropSemicolon : List Char → List Char
  | ';' :: r => r
  | r => r

/-- The digits of a reference by number, whose number sign is read: their base, themselves and what
follows them. -/
def splitCode (s : List Char) : Nat × List Char × List Char :=
  let hexadecimal (r : List Char) : Nat × List Char × List Char :=
    let isDigit (c : Char) : Bool := (Text.hexValue? c).isSome
    (16, r.takeWhile isDigit, r.dropWhile isDigit)
  match s with
  | 'x' :: r => hexadecimal r
  | 'X' :: r => hexadecimal r
  | r => (10, r.takeWhile Char.isDigit, r.dropWhile Char.isDigit)

/-- The number that digits denote; there is a limit to how many decimal digits are read. -/
def codeOf (base : Nat) (digits : List Char) : Except Fault Nat :=
  if base = 10 ∧ Numeral.maxDigits < digits.length then .error .malformed
  else .ok (digits.foldl (fun n c => n * base + (Text.hexValue? c).getD 0) 0)

/-- A reference at the front, after its ampersand: what it stands for, and what follows. -/
def reference? (s : List Char) : Except Fault (Option (List Char × List Char)) :=
  match s with
  | '#' :: r =>
    let (base, digits, rest) := splitCode r
    if digits.isEmpty then .ok none
    else do return some (ofCode (← codeOf base digits), dropSemicolon rest)
  | _ => .ok (named? s)

/-- The value with its references resolved; `fuel` bounds its length. -/
def resolveFrom : Nat → List Char → Except Fault (List Char)
  | 0, s => .ok s
  | _ + 1, [] => .ok []
  | fuel + 1, c :: r => do
    if c = '&' then
      match ← reference? r with
      | some (cs, rest) => return cs ++ (← resolveFrom fuel rest)
      | none => return c :: (← resolveFrom fuel r)
    else return c :: (← resolveFrom fuel r)

/-- The value with its references resolved. -/
def resolve (s : List Char) : Except Fault (List Char) := resolveFrom s.length s

end HostReport.Page
