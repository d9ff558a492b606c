import HostReport.AddressTranslation.Classify
import HostReport.Http.Fetch
import HostReport.Proofs.Address.ReadBack
import HostReport.Proofs.Run
import HostReport.Proofs.Stun.Decoding

/-!
# Comparing mapped addresses

Two answers show the same mapped address exactly if the server saw the same family, address bytes
and port, whichever attribute carries the address and whatever the transaction ids are: what hides
an address is undone by the same combination, and no two addresses have the same text.  So a
symmetric translator is told from a cone by what the servers saw and by nothing else.
-/

namespace HostReport

open Stun

/-! ## Transport addresses -/

/-- The number of bytes of an address. -/
def Family.addressLength : Family → Nat
  | .ipv4 => 4
  | .ipv6 => 16

/-- The number that stands for a family in an attribute. -/
def Family.code : Family → UInt8
  | .ipv4 => 1
  | .ipv6 => 2

/-- A transport address, as a server sees it. -/
@[ext] structure TransportAddress where
  family : Family
  bytes : Bytes
  port : UInt16
  length_bytes : bytes.length = family.addressLength
  deriving DecidableEq

theorem Family.addressLength_inj {f f' : Family} :
    f.addressLength = f'.addressLength ↔ f = f' := by
  cases f <;> cases f' <;> decide

theorem Family.addressLength_eq (f : Family) : f.addressLength = 4 ∨ f.addressLength = 16 := by
  cases f <;> decide

/-! ## Endpoints -/

theorem Ipv4.ofBytes_inj {a b : Bytes} (ha : a.length = 4) (hb : b.length = 4) :
    Ipv4.ofBytes a = Ipv4.ofBytes b ↔ a = b := by
  obtain ⟨a₁, a₂, a₃, a₄, rfl⟩ := List.length_eq_four.1 ha
  obtain ⟨b₁, b₂, b₃, b₄, rfl⟩ := List.length_eq_four.1 hb
  simp [ofBytes]

/-- Combining twice with a key that is long enough changes nothing. -/
theorem Stun.xorWith_xorWith {key bytes : Bytes} (h : bytes.length ≤ key.length) :
    xorWith key (xorWith key bytes) = bytes := by
  have hlength : (xorWith key bytes).length = bytes.length := by
    rw [xorWith, List.length_zipWith]
    omega
  refine List.ext_getElem ?_ fun i hi hi' => ?_
  · rw [xorWith, List.length_zipWith]
    omega
  · simp only [xorWith, List.getElem_zipWith]
    rw [UInt8.xor_assoc, UInt8.xor_self, UInt8.xor_zero]

namespace Stun.HeldAddress

variable {a a' : HeldAddress}

/-- Bytes of four or sixteen have texts of their own. -/
theorem endpoint_inj (ha : a.bytes.length = 4 ∨ a.bytes.length = 16)
    (ha' : a'.bytes.length = 4 ∨ a'.bytes.length = 16) :
    a.endpoint = a'.endpoint ↔ a.bytes = a'.bytes ∧ a.port = a'.port := by
  rw [endpoint, endpoint, Endpoint.mk.injEq, Int.ofNat_inj]
  refine and_congr_left' ?_
  rcases ha with ha | ha <;> rcases ha' with ha' | ha'
  · rw [if_pos ha, if_pos ha', Ipv4.text_inj, Ipv4.ofBytes_inj ha ha']
  · rw [if_pos ha, if_neg (by omega)]
    exact iff_of_false (Ipv4.text_ne_text _ _) fun h => by simp [h, ha'] at ha
  · rw [if_neg (by omega), if_pos ha']
    exact iff_of_false (Ipv4.text_ne_text _ _).symm fun h => by simp [h, ha'] at ha
  · rw [if_neg (by omega), if_neg (by omega), Ipv6.text_inj ha ha']

/-- What is revealed is hidden by the same combination, and the other way round. -/
theorem reveal_reveal (id : TransactionId) (h : a.bytes.length ≤ 16) :
    (a.reveal id).reveal id = a := by
  have hkey : a.bytes.length ≤ (xorKey id.bytes).length := by rwa [length_xorKey]
  have hbytes : ((a.reveal id).reveal id).bytes = a.bytes := by
    rw [bytes_reveal, bytes_reveal, xorWith_xorWith hkey]
  have hport : ((a.reveal id).reveal id).port = a.port := by
    rw [reveal, reveal]
    dsimp only
    rw [Nat.xor_assoc, Nat.xor_self, Nat.xor_zero]
  exact congrArg₂ HeldAddress.mk hport hbytes

theorem port_reveal_lt (id : TransactionId) (h : a.port < 2 ^ 16) :
    (a.reveal id).port < 2 ^ 16 :=
  Nat.xor_lt_two_pow h (by decide)

/-- The value of an attribute that holds an address. -/
def value (a : HeldAddress) (unused : UInt8) (family : Family) : Bytes :=
  unused :: family.code :: (Bytes.ofNat 2 a.port ++ a.bytes)

theorem length_value (unused : UInt8) (family : Family) :
    (a.value unused family).length = a.bytes.length + 4 := by
  simp [value]
  omega

/-- An address is read back from its value. -/
theorem heldAddress?_value {family : Family} (hlength : a.bytes.length = family.addressLength)
    (hport : a.port < 2 ^ 16) (unused : UInt8) :
    heldAddress? (a.value unused family) = some a := by
  have hbytes : Bytes.ofNat 2 a.port =
      [UInt8.ofNat (a.port / 256 % 256), UInt8.ofNat (a.port % 256)] := rfl
  have hread : (UInt8.ofNat (a.port / 256 % 256)).toNat * 256 +
      (UInt8.ofNat (a.port % 256)).toNat = a.port := by
    rw [UInt8.toNat_ofNat', UInt8.toNat_ofNat']
    omega
  have hall : a.bytes.take family.addressLength = a.bytes := by rw [← hlength, List.take_length]
  rw [value, hbytes]
  cases family with
  | ipv4 =>
    have hfour : a.bytes.length = 4 := hlength
    have htake : a.bytes.take 4 = a.bytes := hall
    simp only [heldAddress?, Family.code, List.cons_append, List.nil_append, hread, hfour, htake]
    rfl
  | ipv6 =>
    have hsixteen : a.bytes.length = 16 := hlength
    have htake : a.bytes.take 16 = a.bytes := hall
    simp only [heldAddress?, Family.code, List.cons_append, List.nil_append, hread, hsixteen, htake]
    rfl

end Stun.HeldAddress

/-! ## How a response carries an address -/

/-- The two ways in which an attribute carries an address. -/
inductive AddressForm where
  | plain
  | hidden
  deriving DecidableEq, Repr

/-- The type of the attribute. -/
def AddressForm.type : AddressForm → UInt16
  | plain => 0x0001
  | hidden => 0x0020

namespace TransportAddress

variable (a : TransportAddress)

/-- The port and the bytes, whose number tells the family. -/
def held : HeldAddress := ⟨a.port.toNat, a.bytes⟩

/-- What is written for an address: itself, or what it is combined with cookie and id. -/
def written (id : TransactionId) : AddressForm → HeldAddress
  | .plain => a.held
  | .hidden => a.held.reveal id

theorem length_bytes_le : a.held.bytes.length ≤ 16 := by
  rcases a.family.addressLength_eq with h | h <;> simp [held, a.length_bytes, h]

theorem length_bytes_written (id : TransactionId) (form : AddressForm) :
    (a.written id form).bytes.length = a.family.addressLength := by
  cases form with
  | plain => exact a.length_bytes
  | hidden => exact (HeldAddress.length_bytes_reveal id a.length_bytes_le).trans a.length_bytes

theorem port_written_lt (id : TransactionId) (form : AddressForm) :
    (a.written id form).port < 2 ^ 16 := by
  cases form with
  | plain => exact a.port.toNat_lt
  | hidden => exact HeldAddress.port_reveal_lt id a.port.toNat_lt

/-- Endpoints tell transport addresses apart. -/
theorem endpoint_held_inj {a a' : TransportAddress} :
    a.held.endpoint = a'.held.endpoint ↔
      a.family = a'.family ∧ a.bytes = a'.bytes ∧ a.port = a'.port := by
  have hlength (a : TransportAddress) : a.held.bytes.length = 4 ∨ a.held.bytes.length = 16 := by
    rw [held, a.length_bytes]
    exact a.family.addressLength_eq
  rw [HeldAddress.endpoint_inj (hlength a) (hlength a'), held, held, UInt16.toNat_inj]
  -- the number of bytes tells the family
  refine ⟨fun ⟨hbytes, hport⟩ => ⟨?_, hbytes, hport⟩, fun h => h.2⟩
  rw [← Family.addressLength_inj, ← a.length_bytes, ← a'.length_bytes]
  exact congrArg List.length hbytes

/-- The attribute that carries an address in a response with an id. -/
def carrier (form : AddressForm) (id : TransactionId) (unused : UInt8) : Attribute where
  type := form.type
  value := (a.written id form).value unused a.family
  padding := []
  length_value := by
    rw [HeldAddress.length_value, a.length_bytes_written]
    rcases a.family.addressLength_eq with h | h <;> omega
  length_padding := by
    rw [HeldAddress.length_value, a.length_bytes_written, List.length_nil]
    rcases a.family.addressLength_eq with h | h <;> omega

theorem length_encode_carrier (form : AddressForm) (id : TransactionId) (unused : UInt8) :
    (a.carrier form id unused).encode.length = a.family.addressLength + 8 := by
  rw [Attribute.length_encode, carrier, HeldAddress.length_value, a.length_bytes_written]
  rcases a.family.addressLength_eq with h | h <;> rw [h] <;> rfl

end TransportAddress

theorem Stun.valuesOf_append (types : List Nat) (as bs : List Attribute) :
    valuesOf types (as ++ bs) = valuesOf types as ++ valuesOf types bs := by
  simp [valuesOf]

theorem Stun.valuesOf_eq_nil {types : List Nat} {as : List Attribute}
    (h : ∀ a ∈ as, a.type.toNat ∉ types) : valuesOf types as = [] := by
  simpa [valuesOf] using h

/-- A response that carries the address which a server saw, among attributes of other types; the
first alternate address among them, if there is one, can be read. -/
structure Sighting where
  id : TransactionId
  address : TransportAddress
  form : AddressForm
  unused : UInt8
  before : List Attribute
  after : List Attribute
  others : ∀ a ∈ before ++ after, a.type.toNat ≠ mappedAddress ∧ a.type.toNat ≠ xorMappedAddress
  readable : ∀ v ∈ (valuesOf [changedAddress, otherAddress] (before ++ after)).head?,
    (heldAddress? v).isSome
  fits : (encodeAttributes (before ++ address.carrier form id unused :: after)).length < 2 ^ 16

namespace Sighting

variable (s : Sighting)

/-- All attributes of the response. -/
def attributes : List Attribute := s.before ++ s.address.carrier s.form s.id s.unused :: s.after

/-- The bytes of the response. -/
def datagram : Bytes := encodeResponse 0x2112A442 s.id s.attributes

/-- The alternate address of the server. -/
def alternate : Option Endpoint :=
  ((valuesOf [changedAddress, otherAddress] (s.before ++ s.after)).head?.bind heldAddress?).map
    (·.endpoint)

/-- The values of types that the other attributes do not have: that of the carrier, if it has one
of them. -/
theorem valuesOf_attributes (types : List Nat)
    (h : ∀ a ∈ s.before ++ s.after, a.type.toNat ∉ types) :
    valuesOf types s.attributes = if s.form.type.toNat ∈ types then
      [(s.address.written s.id s.form).value s.unused s.address.family] else [] := by
  have hbefore := valuesOf_eq_nil fun a ha => h a (List.mem_append_left _ ha)
  have hafter := valuesOf_eq_nil fun a ha => h a (List.mem_append_right _ ha)
  rw [attributes, valuesOf_append, valuesOf_cons, hbefore, hafter]
  rfl

theorem valuesOf_alternates :
    valuesOf [changedAddress, otherAddress] s.attributes =
      valuesOf [changedAddress, otherAddress] (s.before ++ s.after) := by
  have hcarrier : s.form.type.toNat ∉ [changedAddress, otherAddress] := by
    cases s.form <;> decide
  rw [attributes, valuesOf_append, valuesOf_append, valuesOf_cons]
  exact congrArg (valuesOf _ s.before ++ ·) (if_neg hcarrier)

/-- The alternate address is read from the attributes. -/
theorem mapM_heldAddress?_alternates :
    ∃ alternates, ((valuesOf [changedAddress, otherAddress] s.attributes).take 1).mapM
        heldAddress? = some alternates ∧
      alternates.head?.map (·.endpoint) = s.alternate := by
  have hreadable := s.readable
  rw [valuesOf_alternates, alternate]
  cases hvalues : valuesOf [changedAddress, otherAddress] (s.before ++ s.after) with
  | nil => exact ⟨[], rfl, rfl⟩
  | cons v vs =>
    rw [hvalues] at hreadable
    obtain ⟨held, hheld⟩ := Option.isSome_iff_exists.1 (hreadable v rfl)
    refine ⟨[held], ?_, ?_⟩
    · simp [hheld]
    · simp [hheld]

/-- What the attributes mean. -/
theorem meaningOf_attributes :
    meaningOf 0x2112A442 s.id s.attributes =
      some { mapped := some s.address.held.endpoint, changed := s.alternate } := by
  obtain ⟨alternates, halternates, hfirst⟩ := s.mapM_heldAddress?_alternates
  have hplain := s.valuesOf_attributes [mappedAddress]
    fun a ha => by simpa using (s.others a ha).1
  have hhidden := s.valuesOf_attributes [xorMappedAddress]
    fun a ha => by simpa using (s.others a ha).2
  have hvalue := HeldAddress.heldAddress?_value (s.address.length_bytes_written s.id s.form)
    (s.address.port_written_lt s.id s.form) s.unused
  have hcookie : (0x2112A442 : UInt32).toNat = magicCookie := rfl
  rw [meaningOf, hplain, hhidden, halternates, if_pos hcookie]
  cases hform : s.form with
  | plain =>
    have hmapped : AddressForm.plain.type.toNat ∈ [mappedAddress] := by decide
    have hxor : AddressForm.plain.type.toNat ∉ [xorMappedAddress] := by decide
    rw [hform] at hvalue
    rw [if_pos hmapped, if_neg hxor, ← hfirst]
    rw [TransportAddress.written] at hvalue ⊢
    simp [hvalue]
  | hidden =>
    have hmapped : AddressForm.hidden.type.toNat ∉ [mappedAddress] := by decide
    have hxor : AddressForm.hidden.type.toNat ∈ [xorMappedAddress] := by decide
    have hrevealed := HeldAddress.reveal_reveal s.id s.address.length_bytes_le
    rw [hform] at hvalue
    rw [if_neg hmapped, if_pos hxor, ← hfirst]
    rw [TransportAddress.written] at hvalue ⊢
    simp [hvalue, hrevealed]

/-- The response is decoded to the address that was seen and the alternate one, whatever follows
it. -/
theorem decodeResponse_datagram (trailing : Bytes) {transaction : Option Bytes}
    (own : ∀ t ∈ transaction, t = s.id.bytes) :
    decodeResponse (s.datagram ++ trailing) transaction =
      .ok { mapped := some s.address.held.endpoint, changed := s.alternate } := by
  have hlength := length_encodeResponse_append 0x2112A442 s.id s.attributes trailing
  have hfits := messageLength_encodeResponse 0x2112A442 s.id s.attributes trailing s.fits
  have hid := messageId_encodeResponse 0x2112A442 s.id s.attributes trailing
  have hmeaning := toOption_gatherAll_response 0x2112A442 s.id s.attributes
  have hdecoded : (decodeResponse (s.datagram ++ trailing) transaction).toOption =
      some { mapped := some s.address.held.endpoint, changed := s.alternate } := by
    rw [datagram, decodeResponse_of_header (by omega) (messageType_encodeResponse ..)
        (by rwa [hid]) (by rw [hfits]; omega),
      messageKey, messageCookie_encodeResponse, hid, hfits, drop_header_encodeResponse,
      readAttributes_encodeAttributes, hmeaning, meaningOf_attributes]
  exact HostM.eq_ok_of_toOption hdecoded

end Sighting

/-! ## What tells a symmetric translator -/

namespace NatType

/-- Whether the tests up to the one of the alternate address give answers that show a translator and
let nothing through from elsewhere; the mapped addresses of the two answers decide what it is. -/
structure ComesToCompare (request : Requester SocketM) (server : Endpoint) (localAddress : String)
    (h : Host) (first other : Response) (s s' : SocketState) : Prop where
  behind : ∃ e, first.mapped = some e ∧ e.host ≠ localAddress
  tests : ∃ alternate s₁ s₂, first.changed = some alternate ∧
    (request server false false).Gives h s (some first) s₁ ∧
    (request server true true).Gives h s₁ none s₂ ∧
    (request alternate false false).Gives h s₂ (some other) s'

variable {request : Requester SocketM} {server : Endpoint} {localAddress : String} {h : Host}
  {first other : Response} {s s' s'' : SocketState} {kind : NatType}

/-- What the comparison decides, and the last test where it decides nothing. -/
def compared (request : Requester SocketM) (server : Endpoint) (first other : Response) :
    SocketM NatType :=
  if other.mapped ≠ first.mapped then return symmetric
  else do
    let otherPort ← request server false true
    return if otherPort.isSome then restrictedCone else portRestrictedCone

theorem ComesToCompare.gives_classify
    (hcompare : ComesToCompare request server localAddress h first other s s')
    (hrest : (compared request server first other).Gives h s' kind s'') :
    (classify request server localAddress).Gives h s kind s'' := by
  obtain ⟨e, hmapped, hbehind⟩ := hcompare.behind
  obtain ⟨alternate, s₁, s₂, hchanged, hplain, helsewhere, hother⟩ := hcompare.tests
  rw [compared, hmapped] at hrest
  rw [classify]
  refine hplain.bind ?_
  simp only [hmapped]
  refine helsewhere.bind ?_
  simp only [if_neg hbehind, hchanged]
  exact hother.bind hrest

/-- Different mapped addresses show a symmetric translator. -/
theorem ComesToCompare.gives_symmetric
    (hcompare : ComesToCompare request server localAddress h first other s s')
    (hdiffer : first.mapped ≠ other.mapped) :
    (classify request server localAddress).Gives h s symmetric s' := by
  refine hcompare.gives_classify ?_
  rw [compared, if_pos hdiffer.symm]
  exact SocketM.gives_pure symmetric

/-- The same mapped address shows a cone, whose filter the last test finds. -/
theorem ComesToCompare.gives_cone
    (hcompare : ComesToCompare request server localAddress h first other s s')
    (hsame : first.mapped = other.mapped) {answer : Option Response}
    (hlast : (request server false true).Gives h s' answer s'') :
    (classify request server localAddress).Gives h s
      (if answer.isSome then restrictedCone else portRestrictedCone) s'' := by
  refine hcompare.gives_classify ?_
  rw [compared, if_neg (not_not_intro hsame.symm)]
  exact hlast.bind (SocketM.gives_pure _)

end NatType

/-- Two responses show the same mapped address exactly if family, address bytes and port are the
same, whichever attributes carry them under whatever ids; so where a translator comes to be told
from a cone by two responses, it is symmetric exactly if the addresses that were seen differ. -/
theorem Sighting.mapped_eq_iff (s s' : Sighting) (trailing trailing' : Bytes)
    (transaction transaction' : Option Bytes) (own : ∀ t ∈ transaction, t = s.id.bytes)
    (own' : ∀ t ∈ transaction', t = s'.id.bytes) :
    ∃ r r', decodeResponse (s.datagram ++ trailing) transaction = .ok r ∧
      decodeResponse (s'.datagram ++ trailing') transaction' = .ok r' ∧
      (r.mapped = r'.mapped ↔ s.address.family = s'.address.family ∧
        s.address.bytes = s'.address.bytes ∧ s.address.port = s'.address.port) ∧
      ∀ (request : NatType.Requester SocketM) (server : Endpoint) (localAddress : String)
        (h : Host) (before compared : SocketState),
        NatType.ComesToCompare request server localAddress h r r' before compared →
        (s.address ≠ s'.address →
          (NatType.classify request server localAddress).Gives h before .symmetric compared) ∧
        (s.address = s'.address → ∀ answer after,
          (request server false true).Gives h compared answer after →
          (NatType.classify request server localAddress).Gives h before
            (if answer.isSome then .restrictedCone else .portRestrictedCone) after) := by
  have hmapped : some s.address.held.endpoint = some s'.address.held.endpoint ↔
      s.address.family = s'.address.family ∧ s.address.bytes = s'.address.bytes ∧
        s.address.port = s'.address.port := by
    rw [Option.some_inj, TransportAddress.endpoint_held_inj]
  refine ⟨_, _, s.decodeResponse_datagram trailing own, s'.decodeResponse_datagram trailing' own',
    hmapped, fun request server localAddress h before compared hcompare => ⟨fun hdiffer => ?_,
      fun hsame answer after hlast => ?_⟩⟩
  · refine hcompare.gives_symmetric fun heq => hdiffer ?_
    exact TransportAddress.ext_iff.2 (hmapped.1 heq)
  · exact hcompare.gives_cone (hmapped.2 (TransportAddress.ext_iff.1 hsame)) hlast

theorem TransportAddress.fits_carrier (a : TransportAddress) (form : AddressForm)
    (id : TransactionId) (unused : UInt8) :
    (encodeAttributes [a.carrier form id unused]).length < 2 ^ 16 := by
  rw [encodeAttributes, List.flatMap_singleton, a.length_encode_carrier]
  rcases a.family.addressLength_eq with h | h <;> omega

/-- The response that carries an address and nothing else. -/
def Sighting.alone (id : TransactionId) (address : TransportAddress) (form : AddressForm) :
    Sighting where
  id
  address
  form
  unused := 0
  before := []
  after := []
  others := fun _ ha => absurd ha List.not_mem_nil
  readable := fun _ hv => absurd hv (Option.not_mem_none _)
  fits := address.fits_carrier form id 0

/-- The address `2001:db8::1` with a port. -/
def sampleAddress (port : UInt16) : TransportAddress where
  family := .ipv6
  bytes := [32, 1, 13, 184, 0, 0, 0, 0, 0, 0, 0, 0, 0, 0, 0, 1]
  port
  length_bytes := rfl

/-- A plain sighting of `[2001:db8::1]:5000` by a server with an alternate address. -/
def plainSighting : Sighting where
  id := .ofNat 1
  address := sampleAddress 5000
  form := .plain
  unused := 0
  before := []
  after := [⟨0x802C, [0, 1, 13, 151, 198, 51, 100, 3], [], by decide, by decide⟩]
  others := by decide
  readable := by decide
  fits := by decide

/-- A hidden sighting of the same host with some port, under another id. -/
def hiddenSighting (port : UInt16) : Sighting := .alone (.ofNat 2) (sampleAddress port) .hidden

/-- Answers a plain request to the server, another to any other address, and nothing else. -/
def plainAnswers (server : Endpoint) (first other : Response) : NatType.Requester SocketM :=
  fun e changeIp changePort =>
    pure (if changeIp || changePort then none else some (if e = server then first else other))

/-- The server that is asked first. -/
def sampleServer : Endpoint := ⟨"192.0.2.1", 3478⟩

/-- The answer of `sampleServer`. -/
def plainResponse : Response where
  mapped := some ⟨"2001:db8::1", 5000⟩
  changed := some ⟨"198.51.100.3", 3479⟩

theorem comesToCompare_plainAnswers (other : Response) (s : SocketState) :
    NatType.ComesToCompare (plainAnswers sampleServer plainResponse other) sampleServer "192.0.2.9"
      {} plainResponse other s s :=
  ⟨⟨_, rfl, by decide⟩, ⟨_, s, s, rfl, rfl, rfl, rfl⟩⟩

theorem decodeResponse_plainSighting :
    decodeResponse (plainSighting.datagram ++ []) none = .ok plainResponse := by
  have hmapped : plainSighting.address.held.endpoint = ⟨"2001:db8::1", 5000⟩ := by decide
  have hchanged : plainSighting.alternate = some ⟨"198.51.100.3", 3479⟩ := by decide
  rw [plainSighting.decodeResponse_datagram [] (by simp), hmapped, hchanged]
  rfl

theorem mapped_eq_iff_hiddenSighting :
    ∃ same other, decodeResponse (hiddenSighting 5000).datagram none = .ok same ∧
      decodeResponse (hiddenSighting 5001).datagram none = .ok other ∧
      plainResponse.mapped = same.mapped ∧ plainResponse.mapped ≠ other.mapped ∧
      (NatType.classify (plainAnswers sampleServer plainResponse same) sampleServer
        "192.0.2.9").Gives {} ⟨{}, []⟩ .portRestrictedCone ⟨{}, []⟩ ∧
      (NatType.classify (plainAnswers sampleServer plainResponse other) sampleServer
        "192.0.2.9").Gives {} ⟨{}, []⟩ .symmetric ⟨{}, []⟩ := by
  obtain ⟨r, same, hr, hsame, hmapped, hclassify⟩ := Sighting.mapped_eq_iff plainSighting
    (hiddenSighting 5000) [] [] none none (by simp) (by simp)
  obtain ⟨r', other, hr', hother, hmapped', hclassify'⟩ := Sighting.mapped_eq_iff plainSighting
    (hiddenSighting 5001) [] [] none none (by simp) (by simp)
  obtain rfl := Except.ok.inj (decodeResponse_plainSighting.symm.trans hr)
  obtain rfl := Except.ok.inj (decodeResponse_plainSighting.symm.trans hr')
  rw [List.append_nil] at hsame hother
  refine ⟨same, other, hsame, hother, hmapped.2 (by decide), mt hmapped'.1 (by decide), ?_, ?_⟩
  · exact (hclassify _ _ _ _ _ _ (comesToCompare_plainAnswers same _)).2 rfl none _ rfl
  · exact (hclassify' _ _ _ _ _ _ (comesToCompare_plainAnswers other _)).1 (by decide)

end HostReport
