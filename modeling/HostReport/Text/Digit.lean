import HostReport.Text.Table.Decimal

/-!
# Digits

The decimal digits of every script with their values, and the wider class of digits that also holds
superscripts, circled digits and the like, which have no decimal value.
-/

namespace HostReport.Text

/-- The value of a decimal digit of any script. -/
def decimalValue? (c : Char) : Option Nat :=
  let n := c.toNat
  if n < 128 then
    if 48 ≤ n ∧ n ≤ 57 then some (n - 48) else none
  else
    (decimalZeros.find? fun z => z ≤ n && n ≤ z + 9).map (n - ·)

/-- A decimal digit of any script. -/
def isDecimal (c : Char) : Bool := (decimalValue? c).isSome

/-- A digit in the wide sense, decimal or not. -/
def isDigit (c : Char) : Bool :=
  isDecimal c || digitOnlyRanges.any fun r => r.1 ≤ c.toNat && c.toNat ≤ r.2

/-- A text that is not empty and holds digits in the wide sense only. -/
def isDigits (s : List Char) : Bool := !s.isEmpty && s.all isDigit

/-- A hexadecimal digit or a colon: what the text of an IPv6 address consists of. -/
def isHexOrColon (c : Char) : Bool :=
  let n := c.toNat
  (48 ≤ n && n ≤ 58) || (65 ≤ n && n ≤ 70) || (97 ≤ n && n ≤ 102)

/-- The value of a hexadecimal digit. -/
def hexValue? (c : Char) : Option Nat :=
  let n := c.toNat
  if 48 ≤ n ∧ n ≤ 57 then some (n - 48)
  else if 65 ≤ n ∧ n ≤ 70 then some (n - 55)
  else if 97 ≤ n ∧ n ≤ 102 then some (n - 87)
  else none

/-- The lower-case hexadecimal digits of `n`, at least `width` of them. -/
def hexDigits (width n : Nat) : List Char :=
  let ds := Nat.toDigits 16 n
  List.replicate (width - ds.length) '0' ++ ds

end HostReport.Text
