import HostReport.Proofs.Stun.Walk

/-!
# The extent of a message

A message declares how long its attributes are, and a datagram may be longer.  The walk stops at the
declared end, but a value is cut from the datagram: an attribute that begins before the end and is
longer than what is left takes its value from the bytes behind it.  `Overruns` says that the walk
comes to such an attribute.

Cutting the datagram at the declared end changes nothing if no attribute overruns
(`readAttributes_take_of_not_overruns`), and makes it unreadable if one does
(`readAttributes_take_of_overruns`).  So an overrun that the datagram satisfies is the only way in
which bytes behind the end can matter (`decodeResponse_take_iff`).
-/

namespace HostReport.Stun

/-- The walk over the first `left` bytes comes to an attribute whose header ends within them and
whose value does not. -/
inductive Overruns : Nat → Bytes → Prop where
  | here {left : Nat} {bytes : Bytes} (header : 4 ≤ left) (value : left < 4 + frontLength bytes) :
      Overruns left bytes
  | later {left : Nat} {bytes : Bytes} (value : 4 + frontLength bytes ≤ left)
      (rest : Overruns (left - attributeSpan (frontLength bytes)) (afterFront bytes)) :
      Overruns left bytes

/-! ## The attribute at the front of a part -/

section Front

variable {left : Nat} {bytes : Bytes}

theorem frontType_take (h : 4 ≤ left) : frontType (bytes.take left) = frontType bytes := by
  rw [frontType, List.take_take, Nat.min_eq_left (by omega), frontType]

theorem frontLength_take (h : 4 ≤ left) : frontLength (bytes.take left) = frontLength bytes := by
  rw [frontLength, List.drop_take, List.take_take, Nat.min_eq_left (by omega), frontLength]

theorem frontValue_take (h : 4 + frontLength bytes ≤ left) :
    frontValue (bytes.take left) = frontValue bytes := by
  rw [frontValue, frontLength_take (by omega), List.drop_take, List.take_take,
    Nat.min_eq_left (by omega), frontValue]

/-- A part that ends within the value lacks some of it. -/
theorem length_frontValue_take_lt (h : 4 ≤ left) (hvalue : left < 4 + frontLength bytes) :
    (frontValue (bytes.take left)).length < frontLength bytes := by
  have hcut : ((bytes.take left).drop 4).length ≤ left - 4 := by
    simp only [List.length_drop, List.length_take]
    omega
  have hvalue' := List.length_take_le' (frontLength bytes) ((bytes.take left).drop 4)
  rw [frontValue, frontLength_take h]
  omega

theorem afterFront_take (h : 4 ≤ left) :
    afterFront (bytes.take left) =
      (afterFront bytes).take (left - attributeSpan (frontLength bytes)) := by
  rw [afterFront, frontLength_take h, List.drop_take, afterFront]

end Front

/-! ## The walk over a part -/

/-- Without an overrun the walk sees nothing behind the end. -/
theorem readAttributes_take_of_not_overruns (key : Option Bytes) {left : Nat} {bytes : Bytes}
    (h : ¬ Overruns left bytes) (g : Gathered) :
    readAttributes key left (bytes.take left) g = readAttributes key left bytes g := by
  induction left using Nat.strongRecOn generalizing bytes g with
  | ind left ih =>
    by_cases hheader : left < 4
    · rw [readAttributes_of_lt hheader, readAttributes_of_lt hheader]
    have hfour : 4 ≤ left := by omega
    have hvalue : 4 + frontLength bytes ≤ left :=
      Nat.le_of_not_lt fun hover => h (.here hfour hover)
    have hrest : ¬ Overruns (left - attributeSpan (frontLength bytes)) (afterFront bytes) :=
      fun hrest => h (.later hvalue hrest)
    have hspan := four_le_attributeSpan (frontLength bytes)
    rw [readAttributes_of_le hfour, readAttributes_of_le hfour, frontValue_take hvalue,
      frontLength_take hfour, frontType_take hfour, afterFront_take hfour,
      funext (ih _ (by omega) hrest)]

/-- With an overrun the walk over the declared part alone fails, if not earlier, where the value
ends too soon. -/
theorem readAttributes_take_of_overruns (key : Option Bytes) {left : Nat} {bytes : Bytes}
    (h : Overruns left bytes) (g : Gathered) :
    (readAttributes key left (bytes.take left) g).toOption = none := by
  induction h generalizing g with
  | here header value =>
    rw [readAttributes_of_le header, frontLength_take header,
      if_pos (length_frontValue_take_lt header value)]
    rfl
  | @later left bytes value rest ih =>
    have hfour : 4 ≤ left := by omega
    rw [readAttributes_of_le hfour, frontValue_take value, frontLength_take hfour,
      afterFront_take hfour]
    split
    · rfl
    · cases g.attribute key (frontType (bytes.take left)) (frontValue bytes) with
      | error f => rfl
      | ok g' => exact ih g'

/-! ## The declared part of a datagram -/

/-- The part of a datagram that its header declares. -/
def declaredPart (data : Bytes) : Bytes := data.take (headerLength + messageLength data)

section Declared

variable {data : Bytes}

theorem messageType_declaredPart : messageType (declaredPart data) = messageType data := by
  rw [messageType, declaredPart, List.take_take, Nat.min_eq_left (by simp [headerLength]; omega),
    messageType]

theorem messageLength_declaredPart : messageLength (declaredPart data) = messageLength data := by
  rw [messageLength, declaredPart, List.drop_take, List.take_take,
    Nat.min_eq_left (by simp [headerLength]; omega), ← messageLength]

theorem messageCookie_declaredPart : messageCookie (declaredPart data) = messageCookie data := by
  rw [messageCookie, declaredPart, List.drop_take, List.take_take,
    Nat.min_eq_left (by simp [headerLength]; omega), messageCookie]

theorem messageId_declaredPart : messageId (declaredPart data) = messageId data := by
  rw [messageId, declaredPart, List.drop_take, List.take_take,
    Nat.min_eq_left (by simp [headerLength]; omega), messageId]

theorem messageKey_declaredPart : messageKey (declaredPart data) = messageKey data := by
  rw [messageKey, messageCookie_declaredPart, messageId_declaredPart, messageKey]

theorem drop_header_declaredPart :
    (declaredPart data).drop headerLength = (data.drop headerLength).take (messageLength data) := by
  rw [declaredPart, List.drop_take, Nat.add_sub_cancel_left]

end Declared

/-- A datagram with a whole message is refused together with its declared part unless the header is
acceptable, and then the two walks decide. -/
theorem toOption_decodeResponse_declaredPart {data : Bytes}
    (hheader : headerLength ≤ data.length)
    (hlength : headerLength + messageLength data ≤ data.length) (transaction : Option Bytes) :
    (decodeResponse (declaredPart data) transaction).toOption = none ∧
        (decodeResponse data transaction).toOption = none ∨
      decodeResponse (declaredPart data) transaction =
          (readAttributes (messageKey data) (messageLength data)
            ((data.drop headerLength).take (messageLength data)) {}).bind Gathered.response ∧
        decodeResponse data transaction =
          (readAttributes (messageKey data) (messageLength data) (data.drop headerLength) {}).bind
            Gathered.response := by
  have hpart : (declaredPart data).length = headerLength + messageLength data := by
    rw [declaredPart, List.length_take, Nat.min_eq_left hlength]
  have hshort : ¬ data.length < headerLength := by omega
  have hpartShort : ¬ (declaredPart data).length < headerLength := by omega
  have hcut : ¬ data.length < headerLength + messageLength data := by omega
  have hpartCut : ¬ (declaredPart data).length < headerLength + messageLength data := by omega
  rw [decodeResponse_eq, decodeResponse_eq data, messageType_declaredPart,
    messageLength_declaredPart, messageId_declaredPart, messageKey_declaredPart,
    drop_header_declaredPart, if_neg hshort, if_neg hpartShort, if_neg hcut, if_neg hpartCut]
  by_cases htype : messageType data ≠ bindingSuccess
  · rw [if_pos htype, if_pos htype]
    exact .inl ⟨rfl, rfl⟩
  · rw [if_neg htype, if_neg htype]
    by_cases hforeign : transaction.any (· ≠ messageId data)
    · rw [if_pos hforeign, if_pos hforeign]
      exact .inl ⟨rfl, rfl⟩
    · rw [if_neg hforeign, if_neg hforeign]
      exact .inr ⟨rfl, rfl⟩

/-- Decoding a datagram and decoding its declared part have the same outcome, the same response or a
refusal of both, except for a datagram that is accepted although an attribute overruns its end. -/
theorem decodeResponse_declaredPart_iff {data : Bytes} (hheader : headerLength ≤ data.length)
    (hlength : headerLength + messageLength data ≤ data.length) (transaction : Option Bytes) :
    (decodeResponse data transaction).toOption =
        (decodeResponse (declaredPart data) transaction).toOption ↔
      ¬ (Overruns (messageLength data) (data.drop headerLength) ∧
        (decodeResponse data transaction).toOption.isSome) := by
  rcases toOption_decodeResponse_declaredPart hheader hlength transaction with
    ⟨hpart, hdata⟩ | ⟨hpart, hdata⟩
  · simp [hpart, hdata]
  by_cases hover : Overruns (messageLength data) (data.drop headerLength)
  · have hnone : (decodeResponse (declaredPart data) transaction).toOption = none := by
      rw [hpart, toOption_bind, readAttributes_take_of_overruns _ hover]
      rfl
    rw [hnone]
    simp [hover]
  · have hsame : decodeResponse (declaredPart data) transaction =
        decodeResponse data transaction := by
      rw [hpart, hdata, readAttributes_take_of_not_overruns _ hover]
    rw [hsame]
    simp [hover]

/-- A message of eight bytes behind the header, the whole of an attribute's header and half of its
value; the other half follows the message. -/
def overrunningDatagram : Bytes :=
  [1, 1, 0, 8, 0x21, 0x12, 0xA4, 0x42, 0, 0, 0, 0, 0, 0, 0, 0, 0, 0, 0, 1,
    0, 1, 0, 8, 0, 1, 3, 232, 10, 0, 0, 1]

/-- The condition is met: the datagram is accepted, so its attribute overruns. -/
theorem overruns_overrunningDatagram :
    headerLength ≤ overrunningDatagram.length ∧
      headerLength + messageLength overrunningDatagram ≤ overrunningDatagram.length ∧
      ¬ (decodeResponse overrunningDatagram none).toOption =
        (decodeResponse (declaredPart overrunningDatagram) none).toOption := by
  have hover : Overruns (messageLength overrunningDatagram)
      (overrunningDatagram.drop headerLength) := .here (by decide) (by decide)
  have haccepted : (decodeResponse overrunningDatagram none).toOption.isSome := by decide +kernel
  refine ⟨by decide, by decide, fun hsame => ?_⟩
  exact (decodeResponse_declaredPart_iff (by decide) (by decide) none).1 hsame ⟨hover, haccepted⟩

/-- So a message is not confined to its declared length: here a mapped address is read half from
behind it. -/
theorem not_confined_to_declaredPart :
    ¬ ∀ (data : Bytes) (transaction : Option Bytes), headerLength ≤ data.length →
      headerLength + messageLength data ≤ data.length →
      (decodeResponse data transaction).toOption =
        (decodeResponse (declaredPart data) transaction).toOption := by
  intro hconfined
  have hsame := hconfined overrunningDatagram none (by decide) (by decide)
  have haccepted : (decodeResponse overrunningDatagram none).toOption =
      some { mapped := some ⟨"10.0.0.1", 1000⟩, changed := none } := by decide +kernel
  have hrefused : (decodeResponse (declaredPart overrunningDatagram) none).toOption = none := by
    decide +kernel
  rw [haccepted, hrefused] at hsame
  exact Option.some_ne_none _ hsame

end HostReport.Stun
