import HostReport.Host.Basic
import HostReport.Proofs.Bytes
import HostReport.Proofs.Stun.Walk

/-!
# What a well-formed response says

A binding response is written from a list of attributes, each padded to a multiple of four bytes,
and a meaning is given to the list without reading bytes in order: the last hidden mapped address
counts, else the last plain one, and the first alternate address.  The main result,
`decodeResponse_encodeResponse`, says that decoding the bytes gives that meaning, for every list of
attributes that fits the length field, with any padding, and whatever bytes follow the message.

The walk over the bytes is first shown to be the fold of `Gathered.attribute` over the list
(`readAttributes_encodeAttributes`); what the fold gathers is then a statement about lists alone
(`toOption_gatherAll`).
-/

namespace HostReport.Stun

/-! ## Writing a response -/

/-- An attribute as it is written: its type, its value, and the bytes that pad the value. -/
structure Attribute where
  type : UInt16
  value : Bytes
  padding : Bytes
  length_value : value.length < 2 ^ 16
  length_padding : padding.length < 4 ∧ (value.length + padding.length) % 4 = 0

/-- The bytes of an attribute: type, length of the value without padding, value and padding. -/
def Attribute.encode (a : Attribute) : Bytes :=
  Bytes.ofNat 2 a.type.toNat ++ Bytes.ofNat 2 a.value.length ++ a.value ++ a.padding

/-- The bytes of attributes one after another. -/
def encodeAttributes (attributes : List Attribute) : Bytes := attributes.flatMap Attribute.encode

/-- The bytes of a successful binding response. -/
def encodeResponse (cookie : UInt32) (id : TransactionId) (attributes : List Attribute) : Bytes :=
  Bytes.ofNat 2 bindingSuccess ++ Bytes.ofNat 2 (encodeAttributes attributes).length ++
    Bytes.ofNat 4 cookie.toNat ++ id.bytes ++ encodeAttributes attributes

/-! ## What a list of attributes means -/

/-- A port and the bytes of an address, as an attribute value holds them. -/
structure HeldAddress where
  port : Nat
  bytes : Bytes

/-- The address in a value: a byte without meaning, the family, the port, and as many bytes as the
family has; nothing if the family is unknown or bytes are missing.  More bytes may follow. -/
def heldAddress? : Bytes → Option HeldAddress
  | _ :: family :: high :: low :: rest =>
    if family = 1 ∧ 4 ≤ rest.length then some ⟨high.toNat * 256 + low.toNat, rest.take 4⟩
    else if family = 2 ∧ 16 ≤ rest.length then some ⟨high.toNat * 256 + low.toNat, rest.take 16⟩
    else none
  | _ => none

/-- The address that a hidden one stands for: its port combined with the high half of the cookie,
its bytes with those of the cookie followed by the transaction id. -/
def HeldAddress.reveal (id : TransactionId) (a : HeldAddress) : HeldAddress where
  port := a.port ^^^ (magicCookie >>> 16)
  bytes := List.zipWith (· ^^^ ·) a.bytes (Bytes.ofNat 4 magicCookie ++ id.bytes)

/-- The transport address, whose kind the number of bytes tells. -/
def HeldAddress.endpoint (a : HeldAddress) : Endpoint where
  host := if a.bytes.length = 4 then (Ipv4.ofBytes a.bytes).text else Ipv6.text a.bytes
  port := a.port

/-- The values of the attributes that have one of the types, in order. -/
def valuesOf (types : List Nat) (attributes : List Attribute) : List Bytes :=
  (attributes.filter fun a => types.contains a.type.toNat).map (·.value)

/-- What attributes under a cookie and a transaction id say; nothing if no mapped address is among
them, or if a value that counts holds no address. -/
def meaningOf (cookie : UInt32) (id : TransactionId) (attributes : List Attribute) :
    Option Response := do
  let plain ← (valuesOf [mappedAddress] attributes).mapM heldAddress?
  let hidden ← (if cookie.toNat = magicCookie then valuesOf [xorMappedAddress] attributes
    else []).mapM heldAddress?
  let alternates ←
    ((valuesOf [changedAddress, otherAddress] attributes).take 1).mapM heldAddress?
  let mapped ← hidden.getLast?.map (·.reveal id) <|> plain.getLast?
  return { mapped := some mapped.endpoint, changed := alternates.head?.map (·.endpoint) }

/-! ## One address value -/

/-- Bytes combined with a key, if there is one. -/
def unhidden : Option Bytes → Bytes → Bytes
  | some key, bytes => xorWith key bytes
  | none, bytes => bytes

/-- A value of fewer than four bytes holds no address. -/
theorem toOption_decodeAddress_of_length_lt {value : Bytes} (h : value.length < 4)
    (key : Option Bytes) : (decodeAddress value key).toOption = none := by
  rw [decodeAddress, if_pos (by omega)]
  rfl

/-- The least length of any address value is implied by that of each family, so the family alone
decides what a value of four or more bytes holds. -/
theorem toOption_decodeAddress_cons (unused family high low : UInt8) (rest : Bytes)
    (key : Option Bytes) :
    (decodeAddress (unused :: family :: high :: low :: rest) key).toOption =
      if family = 1 ∧ 4 ≤ rest.length then
        some ⟨(Ipv4.ofBytes (unhidden key (rest.take 4))).text,
          Bytes.toNat (unhidden key [high, low])⟩
      else if family = 2 ∧ 16 ≤ rest.length then
        some ⟨Ipv6.text (unhidden key (rest.take 16)), Bytes.toNat (unhidden key [high, low])⟩
      else none := by
  have hone : family.toNat = 1 ↔ family = 1 := by
    rw [← UInt8.toNat_inj]
    rfl
  have htwo : family.toNat = 2 ↔ family = 2 := by
    rw [← UInt8.toNat_inj]
    rfl
  have hlength : (unused :: family :: high :: low :: rest).length = rest.length + 4 := rfl
  simp only [decodeAddress, hlength, List.getD_cons_succ, List.getD_cons_zero, hone, htwo]
  by_cases hshort : rest.length + 4 < 8
  · have hfour : ¬ 4 ≤ rest.length := by omega
    have hsixteen : ¬ 16 ≤ rest.length := by omega
    simp [hshort, hfour, hsixteen, Except.toOption]
  · have hfour : 4 ≤ rest.length := by omega
    have hsixteen : 20 ≤ rest.length + 4 ↔ 16 ≤ rest.length := by omega
    rw [if_neg hshort]
    by_cases h1 : family = 1
    · cases key <;> simp [h1, hfour, unhidden, Except.toOption]
    · by_cases h2 : family = 2 ∧ 16 ≤ rest.length
      · cases key <;> simp [h2, unhidden, Except.toOption]
      · simp [h1, h2, hsixteen, Except.toOption]

/-- Decoding a plain value finds the address that it holds, and fails if it holds none. -/
theorem toOption_decodeAddress_plain (value : Bytes) :
    (decodeAddress value none).toOption = (heldAddress? value).map (·.endpoint) := by
  match value with
  | [] | [_] | [_, _] | [_, _, _] => exact toOption_decodeAddress_of_length_lt (by simp) none
  | unused :: family :: high :: low :: rest =>
    rw [toOption_decodeAddress_cons, heldAddress?]
    by_cases hv4 : family = 1 ∧ 4 ≤ rest.length
    · simp [hv4, unhidden, HeldAddress.endpoint, Bytes.toNat]
    · by_cases hv6 : family = 2 ∧ 16 ≤ rest.length
      · simp [hv6, unhidden, HeldAddress.endpoint, Bytes.toNat]
      · simp [hv4, hv6]

theorem length_xorKey (id : TransactionId) : (xorKey id.bytes).length = 16 := by
  simp [xorKey, id.length_bytes]

/-- The first two bytes of the key are the high half of the cookie. -/
theorem toNat_xorWith_xorKey (id : TransactionId) (high low : UInt8) :
    Bytes.toNat (xorWith (xorKey id.bytes) [high, low]) =
      (high.toNat * 256 + low.toNat) ^^^ (magicCookie >>> 16) := by
  have hkey : xorKey id.bytes = 0x21 :: 0x12 :: 0xA4 :: 0x42 :: id.bytes := rfl
  have hport := Bytes.toNat_zipWith_xor (a := [high, low]) (b := [0x21, 0x12]) rfl
  simpa [hkey, xorWith, Bytes.toNat, magicCookie] using hport

theorem HeldAddress.bytes_reveal (id : TransactionId) (a : HeldAddress) :
    (a.reveal id).bytes = xorWith (xorKey id.bytes) a.bytes := rfl

/-- The key is as long as the longest address, so revealing keeps the number of bytes. -/
theorem HeldAddress.length_bytes_reveal (id : TransactionId) {a : HeldAddress}
    (h : a.bytes.length ≤ 16) : (a.reveal id).bytes.length = a.bytes.length := by
  rw [bytes_reveal, xorWith, List.length_zipWith, length_xorKey]
  omega

/-- Decoding a hidden value finds the address that its held one stands for. -/
theorem toOption_decodeAddress_hidden (id : TransactionId) (value : Bytes) :
    (decodeAddress value (some (xorKey id.bytes))).toOption =
      (heldAddress? value).map fun a => (a.reveal id).endpoint := by
  match value with
  | [] | [_] | [_, _] | [_, _, _] => exact toOption_decodeAddress_of_length_lt (by simp) _
  | unused :: family :: high :: low :: rest =>
    rw [toOption_decodeAddress_cons, heldAddress?]
    by_cases hv4 : family = 1 ∧ 4 ≤ rest.length
    · have hfour : (rest.take 4).length = 4 := List.length_take_of_le hv4.2
      have hlength := HeldAddress.length_bytes_reveal id
        (a := ⟨high.toNat * 256 + low.toNat, rest.take 4⟩)
        (Nat.le_trans (Nat.le_of_eq hfour) (by decide))
      simp only [if_pos hv4, Option.map_some, HeldAddress.endpoint, hlength, hfour, if_true]
      rw [unhidden, unhidden, toNat_xorWith_xorKey]
      rfl
    · by_cases hv6 : family = 2 ∧ 16 ≤ rest.length
      · have hsixteen : (rest.take 16).length = 16 := List.length_take_of_le hv6.2
        have hlength := HeldAddress.length_bytes_reveal id
          (a := ⟨high.toNat * 256 + low.toNat, rest.take 16⟩) (Nat.le_of_eq hsixteen)
        simp only [if_neg hv4, if_pos hv6, Option.map_some, HeldAddress.endpoint, hlength,
          hsixteen]
        rw [unhidden, unhidden, toNat_xorWith_xorKey]
        rfl
      · simp [hv4, hv6]

/-! ## The walk over written attributes -/

@[simp] theorem Attribute.length_encode (a : Attribute) :
    a.encode.length = attributeSpan a.value.length := by
  have hpadding := a.length_padding
  simp only [Attribute.encode, attributeSpan, List.length_append, Bytes.length_ofNat]
  omega

theorem Attribute.encode_append (a : Attribute) (rest : Bytes) :
    a.encode ++ rest = Bytes.ofNat 2 a.type.toNat ++
      (Bytes.ofNat 2 a.value.length ++ (a.value ++ (a.padding ++ rest))) := by
  simp [encode]

theorem Attribute.frontType_encode (a : Attribute) (rest : Bytes) :
    frontType (a.encode ++ rest) = a.type.toNat := by
  rw [frontType, a.encode_append, List.take_left' (by simp), Bytes.toNat_ofNat a.type.toNat_lt]

theorem Attribute.frontLength_encode (a : Attribute) (rest : Bytes) :
    frontLength (a.encode ++ rest) = a.value.length := by
  rw [frontLength, a.encode_append, Bytes.take_drop_field (by simp) (by simp),
    Bytes.toNat_ofNat a.length_value]

theorem Attribute.frontValue_encode (a : Attribute) (rest : Bytes) :
    frontValue (a.encode ++ rest) = a.value := by
  rw [frontValue, a.frontLength_encode, a.encode_append, ← List.append_assoc,
    Bytes.take_drop_field (by simp) rfl]

theorem Attribute.afterFront_encode (a : Attribute) (rest : Bytes) :
    afterFront (a.encode ++ rest) = rest := by
  rw [afterFront, a.frontLength_encode, ← a.length_encode, List.drop_left]

/-- Takes the attributes into account one after another. -/
def gatherAll (key : Option Bytes) (attributes : List Attribute) (g : Gathered) :
    Except StunFault Gathered :=
  attributes.foldlM (fun g a => g.attribute key a.type.toNat a.value) g

theorem gatherAll_cons (key : Option Bytes) (a : Attribute) (attributes : List Attribute)
    (g : Gathered) :
    gatherAll key (a :: attributes) g =
      (g.attribute key a.type.toNat a.value).bind (gatherAll key attributes) := rfl

/-- Reading what attributes are written as takes them into account in order, whatever follows. -/
theorem readAttributes_encodeAttributes (key : Option Bytes) (attributes : List Attribute)
    (trailing : Bytes) (g : Gathered) :
    readAttributes key (encodeAttributes attributes).length
      (encodeAttributes attributes ++ trailing) g = gatherAll key attributes g := by
  induction attributes generalizing g with
  | nil => exact readAttributes_of_lt (by simp [encodeAttributes]) key _ g
  | cons a attributes ih =>
    have hbytes : encodeAttributes (a :: attributes) ++ trailing =
        a.encode ++ (encodeAttributes attributes ++ trailing) := by
      simp [encodeAttributes]
    have hlength : (encodeAttributes (a :: attributes)).length =
        attributeSpan a.value.length + (encodeAttributes attributes).length := by
      simp [encodeAttributes]
    have hspan := four_le_attributeSpan a.value.length
    rw [readAttributes_of_le (by omega), hbytes, hlength, a.frontType_encode, a.frontLength_encode,
      a.frontValue_encode, a.afterFront_encode, if_neg (by omega), Nat.add_sub_cancel_left]
    rw [gatherAll_cons, funext ih]

/-! ## What the fold gathers -/

theorem valuesOf_cons (types : List Nat) (a : Attribute) (attributes : List Attribute) :
    valuesOf types (a :: attributes) =
      if a.type.toNat ∈ types then a.value :: valuesOf types attributes
      else valuesOf types attributes := by
  by_cases h : a.type.toNat ∈ types <;> simp [valuesOf, h]

theorem mapM_heldAddress_cons (value : Bytes) (values : List Bytes) :
    (value :: values).mapM heldAddress? =
      (heldAddress? value).bind fun held => (values.mapM heldAddress?).map (held :: ·) := by
  simp only [List.mapM_cons, Option.pure_def, Option.bind_eq_bind, Option.map_eq_bind]
  rfl

/-- What has been gathered once the addresses held by further attributes are added to it; nothing if
some of them hold none. -/
def Gathered.add (g : Gathered) (id : TransactionId) :
    Option (List HeldAddress) → Option (List HeldAddress) → Option (List HeldAddress) →
      Option Gathered
  | some plain, some hidden, some alternates => some {
      mapped := (plain.getLast?.map (·.endpoint)).or g.mapped
      xorMapped := (hidden.getLast?.map fun a => (a.reveal id).endpoint).or g.xorMapped
      changed := g.changed.or (alternates.head?.map (·.endpoint)) }
  | _, _, _ => none

section Add

variable (g : Gathered) (id : TransactionId) (held : HeldAddress)
  (plain hidden alternates : Option (List HeldAddress))

theorem Gathered.add_plain_cons :
    g.add id (plain.map (held :: ·)) hidden alternates =
      { g with mapped := some held.endpoint }.add id plain hidden alternates := by
  cases plain with
  | none => rfl
  | some plain =>
    cases hidden <;> cases alternates <;> try rfl
    cases h : plain.getLast? <;> simp [add, List.getLast?_cons, h]

theorem Gathered.add_hidden_cons :
    g.add id plain (hidden.map (held :: ·)) alternates =
      { g with xorMapped := some (held.reveal id).endpoint }.add id plain hidden alternates := by
  cases hidden with
  | none => cases plain <;> rfl
  | some hidden =>
    cases plain <;> cases alternates <;> try rfl
    cases h : hidden.getLast? <;> simp [add, List.getLast?_cons, h]

theorem Gathered.add_first_alternate (h : g.changed = none) :
    g.add id plain hidden (some [held]) =
      { g with changed := some held.endpoint }.add id plain hidden (some []) := by
  cases plain <;> cases hidden <;> simp [add, h]

theorem Gathered.add_none_hidden : g.add id plain none alternates = none := by
  cases plain <;> rfl

theorem Gathered.add_none_alternates : g.add id plain hidden none = none := by
  cases plain <;> cases hidden <;> rfl

end Add

/-! ## One attribute

The four ways in which an attribute is taken into account, by its type and by what came before. -/

section Attribute

variable (g : Gathered) (key : Option Bytes) {type : Nat} (value : Bytes)

theorem toOption_attribute_plain (h : type = mappedAddress) :
    (g.attribute key type value).toOption =
      (heldAddress? value).map fun held => { g with mapped := some held.endpoint } := by
  rw [Gathered.attribute, if_pos h, toOption_map, toOption_decodeAddress_plain, Option.map_map]
  rfl

theorem toOption_attribute_hidden (id : TransactionId) (h : type = xorMappedAddress) :
    (g.attribute (some (xorKey id.bytes)) type value).toOption =
      (heldAddress? value).map fun held =>
        { g with xorMapped := some (held.reveal id).endpoint } := by
  have hplain : type ≠ mappedAddress := by rw [h]; decide
  rw [Gathered.attribute, if_neg hplain, if_pos ⟨h, rfl⟩, toOption_map,
    toOption_decodeAddress_hidden, Option.map_map]
  rfl

theorem toOption_attribute_alternate (h : type = changedAddress ∨ type = otherAddress)
    (hnone : g.changed = none) :
    (g.attribute key type value).toOption =
      (heldAddress? value).map fun held => { g with changed := some held.endpoint } := by
  have hplain : type ≠ mappedAddress := by rcases h with h | h <;> rw [h] <;> decide
  have hhidden : type ≠ xorMappedAddress := by rcases h with h | h <;> rw [h] <;> decide
  rw [Gathered.attribute, if_neg hplain, if_neg (fun h => hhidden h.1),
    if_pos ⟨h, by simp [hnone]⟩, toOption_map, toOption_decodeAddress_plain, Option.map_map]
  rfl

/-- Any other attribute changes nothing. -/
theorem attribute_of_ignored (hplain : type ≠ mappedAddress)
    (hhidden : ¬ (type = xorMappedAddress ∧ key.isSome))
    (halternate : ¬ ((type = changedAddress ∨ type = otherAddress) ∧ g.changed.isNone)) :
    g.attribute key type value = .ok g := by
  rw [Gathered.attribute, if_neg hplain, if_neg hhidden, if_neg halternate]

end Attribute

/-- The values that the fold decodes: every plain mapped address, every hidden one if there is a
key, and one alternate address unless there was one before. -/
theorem toOption_gatherAll (key : Option Bytes) (id : TransactionId)
    (hkey : ∀ k ∈ key, k = xorKey id.bytes) (attributes : List Attribute) (g : Gathered) :
    (gatherAll key attributes g).toOption =
      g.add id ((valuesOf [mappedAddress] attributes).mapM heldAddress?)
        ((if key.isSome then valuesOf [xorMappedAddress] attributes else []).mapM heldAddress?)
        (((valuesOf [changedAddress, otherAddress] attributes).take
          (if g.changed.isSome then 0 else 1)).mapM heldAddress?) := by
  induction attributes generalizing g with
  | nil =>
    cases key <;> simp [valuesOf, gatherAll, Gathered.add, Except.toOption, pure, Except.pure]
  | cons a attributes ih =>
    rw [gatherAll_cons, toOption_bind]
    simp only [ih, valuesOf_cons]
    by_cases hplain : a.type.toNat = mappedAddress
    · have hmember : a.type.toNat ∈ [mappedAddress] := by simp [hplain]
      have hhidden : a.type.toNat ∉ [xorMappedAddress] := by rw [hplain]; decide
      have halternate : a.type.toNat ∉ [changedAddress, otherAddress] := by rw [hplain]; decide
      rw [toOption_attribute_plain g key _ hplain, if_pos hmember, if_neg hhidden,
        if_neg halternate, mapM_heldAddress_cons]
      cases heldAddress? a.value with
      | none => rfl
      | some held => exact (g.add_plain_cons id held _ _ _).symm
    have hunplain : a.type.toNat ∉ [mappedAddress] := by simpa using hplain
    rw [if_neg hunplain]
    by_cases hhidden : a.type.toNat = xorMappedAddress ∧ key.isSome
    · obtain ⟨htype, hsome⟩ := hhidden
      obtain ⟨k, rfl⟩ := Option.isSome_iff_exists.1 hsome
      have hmember : a.type.toNat ∈ [xorMappedAddress] := by simp [htype]
      have halternate : a.type.toNat ∉ [changedAddress, otherAddress] := by rw [htype]; decide
      rw [hkey k rfl, toOption_attribute_hidden g _ id htype, if_neg halternate]
      simp only [Option.isSome_some, if_true, if_pos hmember]
      rw [mapM_heldAddress_cons]
      cases heldAddress? a.value with
      | none => exact (g.add_none_hidden id _ _).symm
      | some held => exact (g.add_hidden_cons id held _ _ _).symm
    have hunhidden : (if key.isSome then
        if a.type.toNat ∈ [xorMappedAddress] then
          a.value :: valuesOf [xorMappedAddress] attributes
        else valuesOf [xorMappedAddress] attributes
      else []) = if key.isSome then valuesOf [xorMappedAddress] attributes else [] := by
      by_cases hsome : key.isSome
      · have htype : a.type.toNat ∉ [xorMappedAddress] := by
          simpa using fun h => hhidden ⟨h, hsome⟩
        simp only [if_pos hsome, if_neg htype]
      · simp only [if_neg hsome]
    rw [hunhidden]
    by_cases halternate : a.type.toNat = changedAddress ∨ a.type.toNat = otherAddress
    · have hmember : a.type.toNat ∈ [changedAddress, otherAddress] := by simpa using halternate
      rw [if_pos hmember]
      cases hchanged : g.changed with
      | none =>
        rw [toOption_attribute_alternate g key _ halternate hchanged]
        simp only [Option.isSome_none, Bool.false_eq_true, if_false, List.take_succ_cons,
          List.take_zero]
        rw [mapM_heldAddress_cons]
        cases heldAddress? a.value with
        | none => exact (g.add_none_alternates id _ _).symm
        | some held => exact (g.add_first_alternate id held _ _ hchanged).symm
      | some e =>
        rw [attribute_of_ignored g key _ hplain hhidden (by simp [hchanged])]
        simp [Except.toOption, hchanged]
    · have hmember : a.type.toNat ∉ [changedAddress, otherAddress] := by simpa using halternate
      rw [attribute_of_ignored g key _ hplain hhidden (fun h => halternate h.1), if_neg hmember]
      rfl

/-! ## The whole message -/

section Header

variable (cookie : UInt32) (id : TransactionId) (attributes : List Attribute) (trailing : Bytes)

theorem encodeResponse_append :
    encodeResponse cookie id attributes ++ trailing =
      Bytes.ofNat 2 bindingSuccess ++ (Bytes.ofNat 2 (encodeAttributes attributes).length ++
        (Bytes.ofNat 4 cookie.toNat ++
          (id.bytes ++ (encodeAttributes attributes ++ trailing)))) := by
  simp [encodeResponse]

theorem length_encodeResponse_append :
    (encodeResponse cookie id attributes ++ trailing).length =
      headerLength + (encodeAttributes attributes).length + trailing.length := by
  rw [encodeResponse_append]
  simp [id.length_bytes, headerLength]
  omega

theorem messageType_encodeResponse :
    messageType (encodeResponse cookie id attributes ++ trailing) = bindingSuccess := by
  rw [messageType, encodeResponse_append, List.take_left' (by simp), Bytes.toNat_ofNat (by decide)]

theorem messageLength_encodeResponse (fits : (encodeAttributes attributes).length < 2 ^ 16) :
    messageLength (encodeResponse cookie id attributes ++ trailing) =
      (encodeAttributes attributes).length := by
  rw [messageLength, encodeResponse_append, Bytes.take_drop_field (by simp) (by simp),
    Bytes.toNat_ofNat fits]

theorem messageCookie_encodeResponse :
    messageCookie (encodeResponse cookie id attributes ++ trailing) = cookie.toNat := by
  rw [messageCookie, encodeResponse_append, ← List.append_assoc,
    Bytes.take_drop_field (by simp) (by simp), Bytes.toNat_ofNat cookie.toNat_lt]

theorem messageId_encodeResponse :
    messageId (encodeResponse cookie id attributes ++ trailing) = id.bytes := by
  rw [messageId, encodeResponse_append, ← List.append_assoc, ← List.append_assoc,
    Bytes.take_drop_field (by simp) id.length_bytes]

theorem drop_header_encodeResponse :
    (encodeResponse cookie id attributes ++ trailing).drop headerLength =
      encodeAttributes attributes ++ trailing := by
  rw [encodeResponse_append]
  simp only [← List.append_assoc]
  rw [List.append_assoc, List.drop_left' (by simp [id.length_bytes, headerLength])]

end Header

/-- What is gathered from a list of attributes gives the response that the list means. -/
theorem toOption_gatherAll_response (cookie : UInt32) (id : TransactionId)
    (attributes : List Attribute) :
    ((gatherAll (if cookie.toNat = magicCookie then some (xorKey id.bytes) else none)
      attributes {}).bind Gathered.response).toOption = meaningOf cookie id attributes := by
  have hkey : ∀ k ∈ (if cookie.toNat = magicCookie then some (xorKey id.bytes) else none),
      k = xorKey id.bytes := by
    intro k hk
    split at hk <;> simp_all
  have hsome : (if cookie.toNat = magicCookie then some (xorKey id.bytes) else none).isSome = true ↔
      cookie.toNat = magicCookie := by
    split <;> simp_all
  rw [toOption_bind, toOption_gatherAll _ id hkey, meaningOf]
  simp only [hsome, Option.isSome_none, Bool.false_eq_true, if_false]
  cases (valuesOf [mappedAddress] attributes).mapM heldAddress? with
  | none => rfl
  | some plain =>
    generalize (if cookie.toNat = magicCookie then valuesOf [xorMappedAddress] attributes
      else []).mapM heldAddress? = hidden
    generalize ((valuesOf [changedAddress, otherAddress] attributes).take 1).mapM heldAddress? =
      alternates
    cases hidden with
    | none => rfl
    | some hidden =>
      cases alternates with
      | none => rfl
      | some alternates =>
        cases hhidden : hidden.getLast? <;> cases hplain : plain.getLast? <;>
          simp [Gathered.add, Gathered.response, hhidden, hplain, Except.toOption]

/-- Every well-formed response is decoded to what its attributes mean, whatever pads them and
whatever follows the message. -/
theorem decodeResponse_encodeResponse (cookie : UInt32) (id : TransactionId)
    (attributes : List Attribute) (trailing : Bytes) (transaction : Option Bytes)
    (fits : (encodeAttributes attributes).length < 2 ^ 16)
    (own : ∀ t ∈ transaction, t = id.bytes) :
    (decodeResponse (encodeResponse cookie id attributes ++ trailing) transaction).toOption =
      meaningOf cookie id attributes := by
  have hlength := length_encodeResponse_append cookie id attributes trailing
  have hkey : messageKey (encodeResponse cookie id attributes ++ trailing) =
      if cookie.toNat = magicCookie then some (xorKey id.bytes) else none := by
    rw [messageKey, messageCookie_encodeResponse, messageId_encodeResponse]
  rw [decodeResponse_of_header (by omega) (messageType_encodeResponse ..)
      (by rwa [messageId_encodeResponse])
      (by rw [messageLength_encodeResponse _ _ _ _ fits]; omega),
    hkey, messageLength_encodeResponse _ _ _ _ fits, drop_header_encodeResponse,
    readAttributes_encodeAttributes, toOption_gatherAll_response]

/-- A plain address, a name of six bytes with two bytes of padding, a hidden address and an
alternate one, followed by a byte that does not belong to the message. -/
def sampleAttributes : List Attribute :=
  [⟨0x0001, [0, 1, 3, 232, 10, 0, 0, 1], [], by decide, by decide⟩,
    ⟨0x8022, [103, 111, 115, 116, 117, 110], [7, 9], by decide, by decide⟩,
    ⟨0x0020, [0, 1, 245, 35, 234, 18, 213, 75], [], by decide, by decide⟩,
    ⟨0x802C, [0, 1, 13, 151, 198, 51, 100, 2], [], by decide, by decide⟩]

theorem decodeResponse_sampleAttributes :
    (encodeAttributes sampleAttributes).length < 2 ^ 16 ∧
      (decodeResponse (encodeResponse 0x2112A442 (.ofNat 1) sampleAttributes ++ [255])
        (some (TransactionId.ofNat 1).bytes)).toOption =
      some { mapped := some ⟨"203.0.113.9", 54321⟩, changed := some ⟨"198.51.100.2", 3479⟩ } :=
  ⟨by decide,
    (decodeResponse_encodeResponse 0x2112A442 (.ofNat 1) sampleAttributes [255] _ (by decide)
      (by simp)).trans (by decide)⟩

end HostReport.Stun
