import HostReport.Bgp
import HostReport.Proofs.Address.ReadBack

/-!
# The network of 256 addresses

An address is read from its own text and from no other (`Ipv4.ofText?_eq_some_iff`): between the
points stand numbers of ASCII digits, with no leading zero, no sign and no blank.  Addresses are the
numbers of 32 bits, so hiding the last number of a text clears the low eight bits of the address,
and two texts are hidden behind the same one exactly if the upper 24 bits of both are the same.
-/

namespace HostReport

open Text

/-! ## The written form -/

/-- The written form of an octet: ASCII digits without a leading zero, of a value of at most 255. -/
structure IsOctetText (w : List Char) : Prop where
  ne_nil : w ≠ []
  digits : ∀ c ∈ w, c.isDigit = true
  no_leading_zero : w.head? = some '0' → w = ['0']
  value_le : Numeral.ofAsciiDigits w ≤ 255

/-- The written form of an address: four octets with points between them. -/
def IsDottedQuad (s : String) : Prop :=
  ∃ a b c d, (∀ w ∈ [a, b, c, d], IsOctetText w) ∧ s.toList = joinWith ['.'] [a, b, c, d]

theorem isOctetText_toDigits (b : UInt8) : IsOctetText (Nat.toDigits 10 b.toNat) where
  ne_nil := Nat.toDigits_ne_nil
  digits := Numeral.isDigit_of_mem_toDigits
  no_leading_zero hhead := by
    have hzero : b.toNat = 0 := by
      by_contra hne
      exact Numeral.head?_toDigits_ne (Nat.pos_of_ne_zero hne) hhead
    rw [hzero]
    rfl
  value_le := by
    have hlt := b.toNat_lt
    rw [Numeral.ofAsciiDigits_toDigits]
    omega

/-- Every octet has one written form. -/
theorem IsOctetText.eq_toDigits {w : List Char} (hw : IsOctetText w) :
    w = Nat.toDigits 10 (UInt8.ofNat (Numeral.ofAsciiDigits w)).toNat := by
  have hle := hw.value_le
  rw [UInt8.toNat_ofNat', Nat.mod_eq_of_lt (by omega),
    Numeral.toDigits_ofAsciiDigits hw.ne_nil hw.digits hw.no_leading_zero]

namespace Ipv4

/-- An octet is read from its written form only. -/
theorem octet?_eq_some_iff {w : List Char} {b : UInt8} :
    octet? w = some b ↔ w = Nat.toDigits 10 b.toNat := by
  constructor
  · intro hread
    rw [octet?] at hread
    split at hread
    · cases hread
    · next hform =>
      simp only [Bool.or_eq_true, Bool.not_eq_true', decide_eq_true_eq, Bool.and_eq_true,
        beq_iff_eq, not_or, not_and, not_not, List.isEmpty_iff, Bool.not_eq_false] at hform
      obtain ⟨⟨⟨hne, hall⟩, -⟩, hzero⟩ := hform
      have hvalue : w.foldl (fun n c => n * 10 + (c.toNat - 48)) 0 = Numeral.ofAsciiDigits w := by
        rw [Numeral.ofAsciiDigits, Numeral.ofDigitValues, List.foldl_map]
        simp only [Nat.mul_comm]
      dsimp only at hread
      rw [hvalue] at hread
      split at hread
      · next hlt =>
        have hw : IsOctetText w :=
          { ne_nil := hne
            digits := List.all_eq_true.1 hall
            no_leading_zero := fun hhead => by
              obtain ⟨c, rfl⟩ := List.length_eq_one_iff.1 (hzero hhead)
              rw [Option.some.inj hhead]
            value_le := by omega }
        rw [← Option.some.inj hread]
        exact hw.eq_toDigits
      · cases hread
  · rintro rfl
    exact octet?_toDigits b

/-- An address is read from its text only. -/
theorem ofText?_eq_some_iff {s : List Char} {ip : Ipv4} :
    ofText? s = some ip ↔ s = ip.text.toList := by
  constructor
  · intro hread
    rw [ofText?] at hread
    split at hread
    · next wa wb wc wd hsplit =>
      simp only [Option.pure_def, Option.bind_eq_bind, Option.bind_eq_some_iff, Option.some.injEq,
        octet?_eq_some_iff] at hread
      obtain ⟨a, rfl, b, rfl, c, rfl, d, rfl, rfl⟩ := hread
      rw [← joinWith_splitOnP '.' s, hsplit, toList_text]
    · cases hread
  · rintro rfl
    exact ofText?_text ip

end Ipv4

/-- The texts in the written form are those of addresses. -/
theorem isDottedQuad_iff {s : String} : IsDottedQuad s ↔ ∃ ip : Ipv4, s = ip.text := by
  constructor
  · rintro ⟨a, b, c, d, hall, hs⟩
    simp only [List.forall_mem_cons, List.not_mem_nil, false_imp_iff, implies_true,
      and_true] at hall
    obtain ⟨ha, hb, hc, hd⟩ := hall
    let octet (w : List Char) : UInt8 := .ofNat (Numeral.ofAsciiDigits w)
    refine ⟨⟨octet a, octet b, octet c, octet d⟩, String.toList_injective ?_⟩
    rw [hs, Ipv4.toList_text, ← ha.eq_toDigits, ← hb.eq_toDigits, ← hc.eq_toDigits,
      ← hd.eq_toDigits]
  · rintro ⟨ip, rfl⟩
    refine ⟨_, _, _, _, ?_, ip.toList_text⟩
    simp only [List.forall_mem_cons, isOctetText_toDigits, List.not_mem_nil, false_imp_iff,
      implies_true, and_true]

/-! ## Addresses as numbers -/

namespace Ipv4

/-- The address with this number, whose octets are its bytes from the highest to the lowest. -/
def ofNumber (n : BitVec 32) : Ipv4 where
  a := .ofNat (n.toNat / 2 ^ 24)
  b := .ofNat (n.toNat / 2 ^ 16)
  c := .ofNat (n.toNat / 2 ^ 8)
  d := .ofNat n.toNat

theorem toNat_eq (ip : Ipv4) :
    ip.toNat = ip.a.toNat * 2 ^ 24 + ip.b.toNat * 2 ^ 16 + ip.c.toNat * 2 ^ 8 + ip.d.toNat := by
  simp only [toNat, Bytes.toNat, List.foldl_cons, List.foldl_nil]
  omega

theorem toNat_ofNumber (n : BitVec 32) : (ofNumber n).toNat = n.toNat := by
  have hlt := n.isLt
  simp only [toNat_eq, ofNumber, UInt8.toNat_ofNat']
  omega

/-- Every address has a number. -/
theorem ofNumber_toNat (ip : Ipv4) : ofNumber (BitVec.ofNat 32 ip.toNat) = ip := by
  obtain ⟨a, b, c, d⟩ := ip
  have ha := a.toNat_lt
  have hb := b.toNat_lt
  have hc := c.toNat_lt
  have hd := d.toNat_lt
  simp only [ofNumber, toNat_eq, BitVec.toNat_ofNat, Ipv4.mk.injEq, ← UInt8.toNat_inj,
    UInt8.toNat_ofNat']
  omega

theorem ofNumber_injective : Function.Injective ofNumber := fun m n heq =>
  BitVec.eq_of_toNat_eq (by rw [← toNat_ofNumber, heq, toNat_ofNumber])

end Ipv4

theorem toNat_and_not_byte (n : BitVec 32) : (n &&& ~~~0xFF#32).toNat = n.toNat / 256 * 256 := by
  have hshift : n &&& ~~~0xFF#32 = (n >>> 8) <<< 8 := by
    apply BitVec.eq_of_getLsbD_eq
    intro i hi
    have hmask : ∀ i : Fin 32, (~~~0xFF#32).getLsbD i = decide (8 ≤ i.val) := by decide
    rw [BitVec.getLsbD_and, hmask ⟨i, hi⟩, BitVec.getLsbD_shiftLeft, BitVec.getLsbD_ushiftRight]
    by_cases hlow : 8 ≤ i
    · simp [hlow, hi, Nat.not_lt.2 hlow]
    · simp [hlow, Nat.lt_of_not_le hlow]
  have hlt := n.isLt
  rw [hshift, BitVec.toNat_shiftLeft, BitVec.toNat_ushiftRight, Nat.shiftRight_eq_div_pow,
    Nat.shiftLeft_eq]
  omega

theorem Ipv4.network24_ofNumber (n : BitVec 32) :
    (ofNumber n).network24 = ofNumber (n &&& ~~~0xFF#32) := by
  simp only [network24, ofNumber, toNat_and_not_byte, Ipv4.mk.injEq, ← UInt8.toNat_inj,
    UInt8.toNat_ofNat']
  have hzero : (0 : UInt8).toNat = 0 := rfl
  omega

theorem and_not_byte_inj {m n : BitVec 32} :
    m &&& ~~~0xFF#32 = n &&& ~~~0xFF#32 ↔ m >>> 8 = n >>> 8 := by
  rw [← BitVec.toNat_inj, ← BitVec.toNat_inj, toNat_and_not_byte, toNat_and_not_byte,
    BitVec.toNat_ushiftRight, BitVec.toNat_ushiftRight, Nat.shiftRight_eq_div_pow,
    Nat.shiftRight_eq_div_pow]
  omega

/-- The text of the address with this number. -/
def dottedQuad (n : BitVec 32) : String := (Ipv4.ofNumber n).text

theorem dottedQuad_inj {m n : BitVec 32} : dottedQuad m = dottedQuad n ↔ m = n :=
  Ipv4.text_inj.trans Ipv4.ofNumber_injective.eq_iff

theorem exists_eq_dottedQuad_iff {s : String} : (∃ n, s = dottedQuad n) ↔ IsDottedQuad s := by
  rw [isDottedQuad_iff]
  constructor
  · rintro ⟨n, rfl⟩
    exact ⟨_, rfl⟩
  · rintro ⟨ip, rfl⟩
    exact ⟨BitVec.ofNat 32 ip.toNat, by rw [dottedQuad, ip.ofNumber_toNat]⟩

/-! ## Hiding the last number -/

theorem maskIp_text (ip : Ipv4) : maskIp ip.text = ip.network24.text := by
  rw [maskIp, ip.ofText?_text]

/-- In the text of an address the last number is written as zero and the others are kept. -/
theorem toList_maskIp {s : String} (hs : IsDottedQuad s) :
    (maskIp s).toList = joinWith ['.'] ((s.toList.splitOnP (· == '.')).set 3 ['0']) := by
  obtain ⟨ip, rfl⟩ := isDottedQuad_iff.1 hs
  have hzero : Nat.toDigits 10 ip.network24.d.toNat = ['0'] := Nat.toDigits_zero 10
  rw [maskIp_text, ip.splitOnP_text, Ipv4.toList_text, hzero]
  rfl

theorem maskIp_dottedQuad (n : BitVec 32) :
    maskIp (dottedQuad n) = dottedQuad (n &&& ~~~0xFF#32) := by
  rw [dottedQuad, maskIp_text, Ipv4.network24_ofNumber, dottedQuad]

theorem dottedQuad_ne_empty (n : BitVec 32) : dottedQuad n ≠ "" := by
  intro hempty
  have hread := Ipv4.ofText?_text (Ipv4.ofNumber n)
  rw [dottedQuad] at hempty
  rw [hempty] at hread
  exact nomatch hread

theorem maskIp_of_not_isDottedQuad {s : String} (hs : ¬IsDottedQuad s) : maskIp s = "" := by
  rw [maskIp]
  split
  · next ip hread =>
    rw [Ipv4.ofText?_eq_some_iff] at hread
    exact absurd (isDottedQuad_iff.2 ⟨ip, String.toList_injective hread⟩) hs
  · rfl

theorem maskIp_eq_empty_iff (s : String) : maskIp s = "" ↔ ¬IsDottedQuad s := by
  refine ⟨fun hempty hs => ?_, maskIp_of_not_isDottedQuad⟩
  obtain ⟨n, rfl⟩ := exists_eq_dottedQuad_iff.2 hs
  rw [maskIp_dottedQuad] at hempty
  exact dottedQuad_ne_empty _ hempty

theorem maskIp_maskIp (s : String) : maskIp (maskIp s) = maskIp s := by
  by_cases hs : IsDottedQuad s
  · obtain ⟨n, rfl⟩ := exists_eq_dottedQuad_iff.2 hs
    rw [maskIp_dottedQuad, maskIp_dottedQuad, BitVec.and_assoc, BitVec.and_self]
  · rw [maskIp_of_not_isDottedQuad hs]
    rfl

/-- The text of an address is hidden behind that of the address with the low eight bits cleared, and
any other text behind nothing: the texts of addresses are those of four octets in their written form
with points between them.  So hiding twice is hiding once, and two texts are hidden behind the same
address exactly if both are texts of addresses whose upper 24 bits are the same. -/
theorem maskIp_network (s t : String) (n : BitVec 32) :
    maskIp (dottedQuad n) = dottedQuad (n &&& ~~~0xFF#32) ∧
      ((∃ n, s = dottedQuad n) ↔ IsDottedQuad s) ∧
      (maskIp s = "" ↔ ¬∃ n, s = dottedQuad n) ∧
      maskIp (maskIp s) = maskIp s ∧
      (maskIp s = maskIp t ∧ maskIp s ≠ "" ↔
        ∃ k m, s = dottedQuad k ∧ t = dottedQuad m ∧ k >>> 8 = m >>> 8) := by
  refine ⟨maskIp_dottedQuad n, exists_eq_dottedQuad_iff, ?_, maskIp_maskIp s, ?_, ?_⟩
  · rw [maskIp_eq_empty_iff, exists_eq_dottedQuad_iff]
  · rintro ⟨hsame, hs⟩
    have ht : maskIp t ≠ "" := hsame ▸ hs
    rw [Ne, maskIp_eq_empty_iff, not_not, ← exists_eq_dottedQuad_iff] at hs ht
    obtain ⟨k, rfl⟩ := hs
    obtain ⟨m, rfl⟩ := ht
    rw [maskIp_dottedQuad, maskIp_dottedQuad, dottedQuad_inj] at hsame
    exact ⟨k, m, rfl, rfl, and_not_byte_inj.1 hsame⟩
  · rintro ⟨k, m, rfl, rfl, hupper⟩
    rw [maskIp_dottedQuad, maskIp_dottedQuad, and_not_byte_inj.2 hupper]
    exact ⟨rfl, dottedQuad_ne_empty _⟩

end HostReport
