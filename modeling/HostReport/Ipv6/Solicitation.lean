import HostReport.Host.Socket
import HostReport.Ipv6.Advertisement

/-!
# Soliciting advertisements

A solicitation goes to all routers on the link of one interface; the first advertisement that tells
a prefix length of use answers it. This needs a raw socket, which not every user may open.
-/

namespace HostReport.Ipv6

/-- The multicast address of all routers on a link. -/
def allRouters : String := "ff02::2"

/-- The hop limit that neighbour discovery asks for. -/
def discoveryHopLimit : Nat := 255

/-- The most bytes of an advertisement that are looked at. -/
def advertisementLimit : Nat := 1500

/-- The seconds that an advertisement is waited for. -/
def solicitationTimeout : Binary64 := 5

/-- The bytes of the link address of an interface, if it has a readable one. -/
def linkAddress (interfaces : List Interface) (name : String) : Option Bytes := do
  let i ← interfaces.find? (·.name = name)
  let (_, text) ← i.addresses.find? fun a => a.1 = .link && !a.2.isEmpty
  Bytes.ofHex? (text.toList.filter fun c => c != ':' && c != '-')

/-- The prefix lengths of an advertisement that tells any. -/
def usefulLengths? (packet : Bytes) : Option (List Nat) :=
  if 4 ≤ packet.length && packet.head? == some advertisementType then
    match lengthsOfAdvertisement packet with
    | [] => none
    | lengths => some lengths
  else none

/-- The prefix lengths that the routers on the link of an interface advertise; none if no
advertisement arrives in time. -/
def solicit (interface : String) (timeout : Binary64 := solicitationTimeout) :
    HostM (List Nat) := do
  let h ← read
  if (Host.find h.interfaceIndex interface).isNone then throw .unavailable
  let queue ← HostM.ofExcept h.advertisements
  Socket.note (.option (.bindToDevice interface))
  Socket.note (.option (.hopLimit discoveryHopLimit))
  let interfaces ← HostM.ofExcept h.interfaces
  Socket.note (.sent allRouters 0 (solicitation (linkAddress interfaces interface)))
  match ← (Socket.await usefulLengths? advertisementLimit timeout).run' queue with
  | .received lengths => return lengths
  | .expired => return []
  | .failed => throw .unavailable
  | .refused f => throw f

end HostReport.Ipv6
