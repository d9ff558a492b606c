import HostReport.Address.V4
import HostReport.Text.Search

/-!
# IPv6 addresses

Eight groups of sixteen bits. In the canonical text the groups are lower-case hexadecimal numbers
without leading zeros, and the first of the longest runs of two or more zero groups is left out
between two colons. The reader accepts every usual form: groups in either case with leading zeros,
one run left out, the last two groups as an IPv4 address, and a zone name after a percent sign.
-/

namespace HostReport.Ipv6

/-- The groups of sixteen bits that bytes hold. -/
def groupsOf : Bytes → List Nat
  | high :: low :: r => (high.toNat * 256 + low.toNat) :: groupsOf r
  | _ => []

/-- The start and length of the first longest run of zeros from position `i` on, of which `best` was
found before. -/
def longestRun (i : Nat) (best : Nat × Nat) : List Nat → Nat × Nat
  | [] => best
  | g :: gs =>
    let n := ((g :: gs).takeWhile (· == 0)).length
    longestRun (i + 1) (if best.2 < n then (i, n) else best) gs

/-- Groups as lower-case hexadecimal numbers with colons between them. -/
def joinGroups (gs : List Nat) : List Char :=
  Text.joinWith [':'] (gs.map (Text.hexDigits 1))

/-- The canonical text of an address given by its groups. -/
def groupsText (gs : List Nat) : List Char :=
  let (start, n) := longestRun 0 (0, 0) gs
  if n < 2 then joinGroups gs
  else joinGroups (gs.take start) ++ [':', ':'] ++ joinGroups (gs.drop (start + n))

/-- The canonical text of the address that sixteen bytes hold. -/
def text (bytes : Bytes) : String := String.ofList (groupsText (groupsOf bytes))

/-- The group that a text of one to four hexadecimal digits denotes. -/
def group? (s : List Char) : Option Nat :=
  if s.isEmpty || 4 < s.length then none
  else s.foldlM (fun n c => (Text.hexValue? c).map (n * 16 + ·)) 0

/-- The parts between colons, with an IPv4 address at the end as two groups. -/
def parts? (s : List Char) : Option (List (List Char)) :=
  let parts := s.splitOnP (· == ':')
  if parts.length < 3 then none
  else
    match parts.getLast? with
    | some last =>
      if last.contains '.' then do
        let n := (← Ipv4.ofText? last).toNat
        return parts.dropLast ++ [Text.hexDigits 1 (n / 65536), Text.hexDigits 1 (n % 65536)]
      else some parts
    | none => none

/-- The positions, other than the first and the last, of the parts that are empty. -/
def gaps (parts : List (List Char)) : List Nat :=
  (List.range parts.length).filter fun i =>
    0 < i && i + 1 < parts.length && parts[i]?.any (·.isEmpty)

/-- The groups that the parts between colons denote. An empty part at either end is allowed only
beside the run left out, and a run left out holds at least one group. -/
def ofParts? (parts : List (List Char)) : Option (List Nat) :=
  if 9 < parts.length then none
  else
    match gaps parts with
    | [] => if parts.length = 8 then parts.mapM group? else none
    | [skip] => do
      let front := parts.take skip
      let back := parts.drop (skip + 1)
      let front := if front.head? == some [] then front.drop 1 else front
      let back := if back.getLast? == some [] then back.dropLast else back
      guard (parts.head? ≠ some [] || front.isEmpty)
      guard (parts.getLast? ≠ some [] || back.isEmpty)
      guard (front.length + back.length < 8)
      let high ← front.mapM group?
      let low ← back.mapM group?
      return high ++ List.replicate (8 - (high.length + low.length)) 0 ++ low
    | _ => none

/-- The groups of the address that a text denotes. -/
def ofText? (s : List Char) : Option (List Nat) :=
  if s.contains '/' then none
  else
    match Text.cut? '%' s with
    | none => (parts? s).bind ofParts?
    | some (address, zone) =>
      if zone.isEmpty || zone.contains '%' then none else (parts? address).bind ofParts?

end HostReport.Ipv6
