import HostReport.Bytes
import HostReport.Fault
import HostReport.Text.Letter

/-!
# Scopes of IPv6 addresses

Which addresses are of use outside a site: those that are not link-local (`fe80::/10`), unique local
(`fc00::/7`), multicast (`ff00::/8`) or the loopback address. The bytes of an address decide this
exactly; of a written address only the front is looked at.
-/

namespace HostReport.Ipv6

/-- Whether a number can be the length of a prefix that is of use. -/
def isValidLength (n : Int) : Bool := 1 ≤ n && n ≤ 128

/-- The bytes of the loopback address. -/
def loopback : Bytes := List.replicate 15 0 ++ [1]

/-- Whether the sixteen bytes are those of an address that is not global. -/
def isLocal : Bytes → Bool
  | a :: b :: rest =>
    (a == 0xFE && b &&& 0xC0 == 0x80) || a &&& 0xFE == 0xFC || a :: b :: rest == loopback ||
      a == 0xFF
  | _ => false

/-- Whether a prefix, which has sixteen bytes, is not global. -/
def isNonGlobalPrefix (bytes : Bytes) : Except Fault Bool :=
  if bytes.length = 16 then .ok (isLocal bytes) else .error .wrongPrefixSize

/-- How written addresses begin that are not global. -/
def localFronts : List String := ["fe80", "::1", "fc", "fd", "ff"]

/-- Whether a written address, in either case, counts as global. -/
def isPublicText (address : String) : Bool :=
  !localFronts.any fun front => front.toList.isPrefixOf (Text.lower address.toList)

end HostReport.Ipv6
