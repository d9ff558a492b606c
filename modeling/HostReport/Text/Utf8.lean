/-!
# Decoding bytes

Bytes are read as UTF-8; every maximal part that begins a character but does not complete it, and
every byte that can begin none, is read as one replacement character. In files a carriage return,
with or without a line feed after it, is read as a line feed.
-/

namespace HostReport.Text.Utf8

/-- The replacement character. -/
def replacement : Char := Char.ofNat 0xFFFD

/-- A character of which the first bytes are read: how many are left, the value so far, and the
bounds of the next byte. -/
structure Pending where
  left : Nat
  value : Nat
  low : Nat
  high : Nat

/-- What a byte at the start of a character says. -/
inductive Lead where
  | char (c : Char)
  | more (p : Pending)
  | bad

/-- Reads the first byte of a character. The bounds of the second byte exclude overlong forms,
surrogates and numbers above the last code point. -/
def lead (b : Nat) : Lead :=
  if b < 0x80 then .char (Char.ofNat b)
  else if b < 0xC2 then .bad
  else if b < 0xE0 then .more ⟨1, b - 0xC0, 0x80, 0xBF⟩
  else if b < 0xF0 then
    .more ⟨2, b - 0xE0, if b = 0xE0 then 0xA0 else 0x80, if b = 0xED then 0x9F else 0xBF⟩
  else if b < 0xF5 then
    .more ⟨3, b - 0xF0, if b = 0xF0 then 0x90 else 0x80, if b = 0xF4 then 0x8F else 0xBF⟩
  else .bad

/-- Decodes bytes, the first of which may continue a pending character. -/
def decodeFrom : Option Pending → List UInt8 → List Char
  | none, [] => []
  | some _, [] => [replacement]
  | none, b :: bs =>
    match lead b.toNat with
    | .char c => c :: decodeFrom none bs
    | .more p => decodeFrom (some p) bs
    | .bad => replacement :: decodeFrom none bs
  | some p, b :: bs =>
    let n := b.toNat
    if p.low ≤ n ∧ n ≤ p.high then
      let value := p.value * 64 + (n - 0x80)
      if p.left ≤ 1 then Char.ofNat value :: decodeFrom none bs
      else decodeFrom (some ⟨p.left - 1, value, 0x80, 0xBF⟩) bs
    else
      match lead n with
      | .char c => replacement :: c :: decodeFrom none bs
      | .more q => replacement :: decodeFrom (some q) bs
      | .bad => replacement :: replacement :: decodeFrom none bs

/-- The text of a sequence of bytes. -/
def decode (bytes : List UInt8) : List Char := decodeFrom none bytes

end HostReport.Text.Utf8

namespace HostReport.Text

/-- The text with every carriage return, and every one followed by a line feed, as a line feed. -/
def plainNewlines : List Char → List Char
  | [] => []
  | '\r' :: '\n' :: r => '\n' :: plainNewlines r
  | c :: r => (if c = '\r' then '\n' else c) :: plainNewlines r

end HostReport.Text
