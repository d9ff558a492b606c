import HostReport.Fault
import HostReport.Address.V6

/-!
# STUN binding messages

A message is a header of twenty bytes (type, length of the attributes, magic cookie, transaction id)
and attributes of a type, a length and a value padded to a multiple of four bytes. A binding request
may ask the server to answer from another address or port. Of a binding response two things are
taken: the address that the server saw, plain or combined with the cookie and the transaction id by
exclusive or, and the server's alternate address.
-/

namespace HostReport

/-- A transport address: the text of an address, and a port. -/
structure Endpoint where
  host : String
  port : Int
  deriving DecidableEq, Repr

namespace Stun

/-- The number that marks messages whose transaction id has twelve bytes. -/
def magicCookie : Nat := 0x2112A442

/-- The length of a header. -/
def headerLength : Nat := 20

/-- The type of a binding request. -/
def bindingRequest : Nat := 0x0001

/-- The type of a successful binding response. -/
def bindingSuccess : Nat := 0x0101

/-- The attribute with the address that the server saw. -/
def mappedAddress : Nat := 0x0001

/-- The attribute that asks for an answer from elsewhere. -/
def changeRequest : Nat := 0x0003

/-- The attribute with the server's alternate address, older form. -/
def changedAddress : Nat := 0x0005

/-- The attribute with the address that the server saw, combined with cookie and id. -/
def xorMappedAddress : Nat := 0x0020

/-- The attribute with the server's alternate address, newer form. -/
def otherAddress : Nat := 0x802C

/-- What a client learns from a binding response. -/
structure Response where
  mapped : Option Endpoint := none
  changed : Option Endpoint := none
  deriving DecidableEq, Repr

/-- The flags of a change request. -/
def changeFlags (changeIp changePort : Bool) : Nat :=
  (if changeIp then 4 else 0) + (if changePort then 2 else 0)

/-- A binding request with this transaction id. -/
def encodeRequest (id : Bytes) (changeIp changePort : Bool) : Except Fault Bytes :=
  if id.length ≠ 12 then .error .wrongTransactionSize
  else
    let flags := changeFlags changeIp changePort
    let attributes :=
      if flags = 0 then []
      else Bytes.ofNat 2 changeRequest ++ Bytes.ofNat 2 4 ++ Bytes.ofNat 4 flags
    .ok (Bytes.ofNat 2 bindingRequest ++ Bytes.ofNat 2 attributes.length ++
      Bytes.ofNat 4 magicCookie ++ id ++ attributes)

/-- The key that hides an address: the cookie followed by the transaction id. -/
def xorKey (id : Bytes) : Bytes := Bytes.ofNat 4 magicCookie ++ id

/-- The bytes combined with those of the key, position by position. -/
def xorWith (key bytes : Bytes) : Bytes := List.zipWith (· ^^^ ·) bytes key

/-- The address that an attribute value holds, revealed with the key if there is one. -/
def decodeAddress (value : Bytes) (key : Option Bytes) : Except StunFault Endpoint :=
  if value.length < 8 then .error .shortAddress
  else
    let family := (value.getD 1 0).toNat
    let reveal (bytes : Bytes) : Bytes :=
      match key with
      | some k => xorWith k bytes
      | none => bytes
    let port := Bytes.toNat (reveal ((value.drop 2).take 2))
    if family = 1 then
      .ok ⟨(Ipv4.ofBytes (reveal ((value.drop 4).take 4))).text, port⟩
    else if family = 2 ∧ 20 ≤ value.length then
      .ok ⟨Ipv6.text (reveal ((value.drop 4).take 16)), port⟩
    else .error (.unknownFamily family)

/-- What has been gathered from the attributes read so far. -/
structure Gathered where
  mapped : Option Endpoint := none
  xorMapped : Option Endpoint := none
  changed : Option Endpoint := none

/-- Takes one attribute into account: the last plain and the last hidden mapped address count, and
the first alternate address. Hidden addresses are read only where there is a key. -/
def Gathered.attribute (g : Gathered) (key : Option Bytes) (type : Nat) (value : Bytes) :
    Except StunFault Gathered :=
  if type = mappedAddress then
    (decodeAddress value none).map fun e => { g with mapped := some e }
  else if type = xorMappedAddress ∧ key.isSome then
    (decodeAddress value key).map fun e => { g with xorMapped := some e }
  else if (type = changedAddress ∨ type = otherAddress) ∧ g.changed.isNone then
    (decodeAddress value none).map fun e => { g with changed := some e }
  else .ok g

/-- The length of an attribute with its header and its padding. -/
def attributeSpan (length : Nat) : Nat := 4 + length + (4 - length % 4) % 4

/-- Reads the attributes in the first `left` bytes of what follows the header. An attribute that
begins within them is read to the end of the datagram if its length says so. -/
def readAttributes (key : Option Bytes) (left : Nat) (bytes : Bytes) (g : Gathered) :
    Except StunFault Gathered :=
  if left < 4 then .ok g
  else
    let type := Bytes.toNat (bytes.take 2)
    let length := Bytes.toNat ((bytes.drop 2).take 2)
    let value := (bytes.drop 4).take length
    if value.length < length then .error .truncatedAttribute
    else
      match g.attribute key type value with
      | .error f => .error f
      | .ok g =>
        readAttributes key (left - attributeSpan length) (bytes.drop (attributeSpan length)) g
termination_by left
decreasing_by simp only [attributeSpan]; omega

/-- What the gathered attributes say; a hidden mapped address counts before a plain one. -/
def Gathered.response (g : Gathered) : Except StunFault Response :=
  match g.xorMapped <|> g.mapped with
  | some e => .ok { mapped := some e, changed := g.changed }
  | none => .error .noMappedAddress

/-- The response that a datagram holds, which must answer the transaction if one is given. -/
def decodeResponse (data : Bytes) (transaction : Option Bytes) : Except StunFault Response :=
  if data.length < headerLength then .error .shortHeader
  else
    let type := Bytes.toNat (data.take 2)
    let length := Bytes.toNat ((data.drop 2).take 2)
    let cookie := Bytes.toNat ((data.drop 4).take 4)
    let id := (data.drop 8).take 12
    if type ≠ bindingSuccess then .error (.notSuccess type)
    else if transaction.any (· ≠ id) then .error .foreignTransaction
    else if data.length < headerLength + length then .error .truncatedMessage
    else
      let key := if cookie = magicCookie then some (xorKey id) else none
      match readAttributes key length (data.drop headerLength) {} with
      | .error f => .error f
      | .ok g => g.response

end Stun

end HostReport
