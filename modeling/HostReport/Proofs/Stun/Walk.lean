import HostReport.Stun.Message

/-!
# The header of a message and the walk over its attributes

What `decodeResponse` reads of a datagram, by name: the fields of the header, and of the attribute
at the front of what is left its type, the length that it declares and the value that is there.
Everything about whole messages is derived from the equations of this file.
-/

namespace HostReport.Stun

/-! ## Outcomes without the reason of a refusal -/

theorem toOption_bind {α β : Type} (x : Except StunFault α) (k : α → Except StunFault β) :
    (x.bind k).toOption = x.toOption.bind fun a => (k a).toOption := by
  cases x <;> rfl

theorem toOption_map {α β : Type} (x : Except StunFault α) (f : α → β) :
    (x.map f).toOption = x.toOption.map f := by
  cases x <;> rfl

/-! ## The header -/

/-- The type of a message. -/
def messageType (data : Bytes) : Nat := Bytes.toNat (data.take 2)

/-- The length that a message declares for its attributes. -/
def messageLength (data : Bytes) : Nat := Bytes.toNat ((data.drop 2).take 2)

/-- The cookie of a message. -/
def messageCookie (data : Bytes) : Nat := Bytes.toNat ((data.drop 4).take 4)

/-- The transaction id of a message. -/
def messageId (data : Bytes) : Bytes := (data.drop 8).take 12

/-- The key that hides addresses in a message, if its cookie is the magic one. -/
def messageKey (data : Bytes) : Option Bytes :=
  if messageCookie data = magicCookie then some (xorKey (messageId data)) else none

/-- A datagram is refused by its header, or else by its attributes. -/
theorem decodeResponse_eq (data : Bytes) (transaction : Option Bytes) :
    decodeResponse data transaction =
      if data.length < headerLength then .error .shortHeader
      else if messageType data ≠ bindingSuccess then .error (.notSuccess (messageType data))
      else if transaction.any (· ≠ messageId data) then .error .foreignTransaction
      else if data.length < headerLength + messageLength data then .error .truncatedMessage
      else
        (readAttributes (messageKey data) (messageLength data) (data.drop headerLength) {}).bind
          Gathered.response := by
  unfold messageKey messageType messageLength messageCookie messageId
  rw [decodeResponse]
  dsimp only
  generalize readAttributes _ _ _ _ = gathered
  cases gathered with
  | error f => rfl
  | ok g => rfl

/-- Behind an acceptable header the attributes decide. -/
theorem decodeResponse_of_header {data : Bytes} {transaction : Option Bytes}
    (hheader : headerLength ≤ data.length) (htype : messageType data = bindingSuccess)
    (hown : ∀ t ∈ transaction, t = messageId data)
    (hlength : headerLength + messageLength data ≤ data.length) :
    decodeResponse data transaction =
      (readAttributes (messageKey data) (messageLength data) (data.drop headerLength) {}).bind
        Gathered.response := by
  have hany : ¬ transaction.any (· ≠ messageId data) = true := by
    cases transaction with
    | none => simp
    | some t => simpa using hown t rfl
  rw [decodeResponse_eq, if_neg (by omega), if_neg (by simpa using htype), if_neg hany,
    if_neg (by omega)]

/-- A response carries a mapped address. -/
theorem mapped_isSome_of_decodeResponse {data : Bytes} {transaction : Option Bytes} {r : Response}
    (hdecoded : decodeResponse data transaction = .ok r) : r.mapped.isSome := by
  rw [decodeResponse_eq] at hdecoded
  split at hdecoded
  · exact nomatch hdecoded
  split at hdecoded
  · exact nomatch hdecoded
  split at hdecoded
  · exact nomatch hdecoded
  split at hdecoded
  · exact nomatch hdecoded
  cases hgathered : readAttributes (messageKey data) (messageLength data)
      (data.drop headerLength) {} with
  | error f =>
    rw [hgathered] at hdecoded
    exact nomatch hdecoded
  | ok g =>
    rw [hgathered] at hdecoded
    change g.response = .ok r at hdecoded
    rw [Gathered.response] at hdecoded
    split at hdecoded
    · cases hdecoded
      rfl
    · exact nomatch hdecoded

/-! ## The attribute at the front -/

/-- The type of the attribute at the front. -/
def frontType (bytes : Bytes) : Nat := Bytes.toNat (bytes.take 2)

/-- The length that the attribute at the front declares for its value. -/
def frontLength (bytes : Bytes) : Nat := Bytes.toNat ((bytes.drop 2).take 2)

/-- The value of the attribute at the front, as far as there are bytes. -/
def frontValue (bytes : Bytes) : Bytes := (bytes.drop 4).take (frontLength bytes)

/-- What follows the attribute at the front. -/
def afterFront (bytes : Bytes) : Bytes := bytes.drop (attributeSpan (frontLength bytes))

theorem four_le_attributeSpan (length : Nat) : 4 + length ≤ attributeSpan length := by
  rw [attributeSpan]
  omega

/-- The walk ends where no header of an attribute fits any more. -/
theorem readAttributes_of_lt {left : Nat} (h : left < 4) (key : Option Bytes) (bytes : Bytes)
    (g : Gathered) : readAttributes key left bytes g = .ok g := by
  rw [readAttributes, if_pos h]

/-- One step of the walk takes the attribute at the front into account and goes on behind it. -/
theorem readAttributes_of_le {left : Nat} (h : 4 ≤ left) (key : Option Bytes) (bytes : Bytes)
    (g : Gathered) :
    readAttributes key left bytes g =
      if (frontValue bytes).length < frontLength bytes then .error .truncatedAttribute
      else
        (g.attribute key (frontType bytes) (frontValue bytes)).bind
          (readAttributes key (left - attributeSpan (frontLength bytes)) (afterFront bytes)) := by
  unfold frontType frontValue afterFront frontLength
  rw [readAttributes, if_neg (by omega)]
  dsimp only
  generalize g.attribute _ _ _ = gathered
  cases gathered with
  | error f => rfl
  | ok g => rfl

end HostReport.Stun
