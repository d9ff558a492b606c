import HostReport.Bytes
import HostReport.Text.Blank

/-!
# IPv4 addresses

Four octets, written in decimal with points between them. Only the written form itself is read: each
octet has one to three ASCII digits, no leading zero, and is at most 255.
-/

namespace HostReport

/-- An IPv4 address. -/
structure Ipv4 where
  a : UInt8
  b : UInt8
  c : UInt8
  d : UInt8
  deriving DecidableEq, Repr

namespace Ipv4

/-- The octets as decimal numbers with points between them. -/
def text (ip : Ipv4) : String :=
  s!"{ip.a.toNat}.{ip.b.toNat}.{ip.c.toNat}.{ip.d.toNat}"

/-- The octet that a text denotes. -/
def octet? (s : List Char) : Option UInt8 :=
  if s.isEmpty || !s.all Char.isDigit || 3 < s.length || (s.head? == some '0' && s.length ≠ 1) then
    none
  else
    let n := s.foldl (fun n c => n * 10 + (c.toNat - 48)) 0
    if n < 256 then some (UInt8.ofNat n) else none

/-- The address that a text denotes. -/
def ofText? (s : List Char) : Option Ipv4 :=
  match s.splitOnP (· == '.') with
  | [a, b, c, d] => do return ⟨← octet? a, ← octet? b, ← octet? c, ← octet? d⟩
  | _ => none

/-- The address whose octets are the four bytes at the front. -/
def ofBytes : Bytes → Ipv4
  | a :: b :: c :: d :: _ => ⟨a, b, c, d⟩
  | _ => ⟨0, 0, 0, 0⟩

/-- The address as a 32-bit number. -/
def toNat (ip : Ipv4) : Nat := Bytes.toNat [ip.a, ip.b, ip.c, ip.d]

/-- The first address of the network of 256 addresses that holds this one. -/
def network24 (ip : Ipv4) : Ipv4 := { ip with d := 0 }

end Ipv4

end HostReport
