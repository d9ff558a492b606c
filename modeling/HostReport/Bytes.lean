import HostReport.Text.Digit

/-!
# Bytes

Big-endian numbers in sequences of bytes, and bytes written as pairs of hexadecimal digits.
-/

namespace HostReport

/-- A sequence of bytes, as packets and files hold them. -/
abbrev Bytes := List UInt8

namespace Bytes

/-- The number that big-endian bytes denote. -/
def toNat (bytes : Bytes) : Nat := bytes.foldl (fun n b => n * 256 + b.toNat) 0

/-- The low `count` bytes of a number, big-endian. -/
def ofNat : Nat → Nat → Bytes
  | 0, _ => []
  | count + 1, n => ofNat count (n / 256) ++ [UInt8.ofNat (n % 256)]

@[simp] theorem length_ofNat (count n : Nat) : (ofNat count n).length = count := by
  induction count generalizing n with
  | zero => rfl
  | succ count ih => simp [ofNat, ih]

/-- Two hexadecimal digits for each byte. -/
def toHex (bytes : Bytes) : String :=
  String.ofList (bytes.flatMap fun b => Text.hexDigits 2 b.toNat)

/-- A character that may stand between the pairs of digits of a byte text. -/
def isHexGap (c : Char) : Bool :=
  let n := c.toNat
  n == 32 || (9 ≤ n && n ≤ 13)

/-- Reads pairs of hexadecimal digits, with blanks before, between and after the pairs. -/
def ofHex? : List Char → Option Bytes
  | [] => some []
  | [c] => if isHexGap c then some [] else none
  | c :: d :: r =>
    if isHexGap c then ofHex? (d :: r)
    else do
      let high ← Text.hexValue? c
      let low ← Text.hexValue? d
      return UInt8.ofNat (high * 16 + low) :: (← ofHex? r)

end Bytes

end HostReport
