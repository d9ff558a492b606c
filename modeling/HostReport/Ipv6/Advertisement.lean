import HostReport.Ipv6.Scope

/-!
# Router advertisements

A router advertisement is a header of sixteen bytes followed by options. Each option has a type, its
length in units of eight bytes, and a body; one that is longer than what is left ends the list, and
so does a length of zero. An option of prefix information tells the length and the bytes of a
prefix. The packet that asks for an advertisement may name the link address of the sender in an
option.
-/

namespace HostReport.Ipv6

/-- The message type of a router solicitation. -/
def solicitationType : UInt8 := 133

/-- The message type of a router advertisement. -/
def advertisementType : UInt8 := 134

/-- The option type of a link address of the sender. -/
def linkAddressOption : UInt8 := 1

/-- The option type of prefix information. -/
def prefixOption : UInt8 := 3

/-- The bytes before the options of an advertisement. -/
def advertisementHeader : Nat := 16

/-- The bytes of prefix information. -/
def prefixOptionSize : Nat := 32

/-- The prefix length that an option tells: one of a global prefix, and of use. The option is given
by its type and what follows type and length. -/
def lengthOfOption (type : UInt8) (body : Bytes) : List Nat :=
  if type = prefixOption && prefixOptionSize ≤ body.length + 2 then
    let length := (body.headD 0).toNat
    let bytes := (body.drop 14).take 16
    if !isLocal bytes && isValidLength length then [length] else []
  else []

/-- The prefix lengths that a list of options tells. -/
def lengthsOfOptions : Bytes → List Nat
  | type :: units :: rest =>
    let size := units.toNat * 8
    if size = 0 ∨ rest.length + 2 < size then []
    else lengthOfOption type (rest.take (size - 2)) ++ lengthsOfOptions (rest.drop (size - 2))
  | _ => []
termination_by options => options.length
decreasing_by simp; omega

/-- The prefix lengths that an advertisement tells. -/
def lengthsOfAdvertisement (packet : Bytes) : List Nat :=
  lengthsOfOptions (packet.drop advertisementHeader)

/-- The packet that asks for an advertisement, with the link address of the sender if it has the
six bytes of one. -/
def solicitation (linkAddress : Option Bytes) : Bytes :=
  [solicitationType, 0, 0, 0, 0, 0, 0, 0] ++
    match linkAddress with
    | some mac => if mac.length = 6 then [linkAddressOption, 1] ++ mac else []
    | none => []

end HostReport.Ipv6
