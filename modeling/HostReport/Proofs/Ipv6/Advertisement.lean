import HostReport.Ipv6.Advertisement
import HostReport.Proofs.Bytes
import HostReport.Proofs.Ipv6.Scope

/-!
# What an advertisement tells

An advertisement is a header and whatever follows it: whole options, as many as there are, and at
their end perhaps bytes that are no option.  `RouterOption` is an option that is whole, with its
bytes; `IsUseful` says of which options the prefix length is told, in terms of the prefix as a
number of 128 bits.  The walk over the options tells the lengths of the useful ones in order, sees a
first part of them where the packet is cut off, and takes a bounded number of rounds (`Walks`) on
whatever bytes it is given.
-/

namespace HostReport.Ipv6

/-! ## Local prefixes as numbers -/

/-- A block of addresses: those that begin with the same `length` bits as an address whose first
group is `group`. -/
structure Block where
  group : Nat
  length : Nat

/-- Whether an address, as a number of 128 bits, lies in a block. -/
def Block.Holds (b : Block) (n : Nat) : Prop :=
  n / 2 ^ (128 - b.length) = b.group * 2 ^ 112 / 2 ^ (128 - b.length)

/-- The link-local block, the unique local one and the one of multicast. -/
def localBlocks : List Block := [⟨0xFE80, 10⟩, ⟨0xFC00, 7⟩, ⟨0xFF00, 8⟩]

/-- Whether an address, as a number of 128 bits, is not global: it lies in a local block, or it is
the loopback address. -/
def IsLocalNumber (n : Nat) : Prop := (∃ b ∈ localBlocks, b.Holds n) ∨ n = 1

instance (b : Block) (n : Nat) : Decidable (b.Holds n) := inferInstanceAs (Decidable (_ = _))

instance : DecidablePred IsLocalNumber := fun _ => inferInstanceAs (Decidable (_ ∨ _))

/-- The first group of an address is its first sixteen bits. -/
theorem toNat_div_eq_firstGroup {bytes : Bytes} (h : bytes.length = 16) :
    Bytes.toNat bytes / 2 ^ 112 = firstGroup bytes := by
  match bytes, h with
  | a :: b :: rest, h =>
    have hlength : rest.length = 14 := by simpa using h
    have hrest := Bytes.toNat_lt rest
    have hpower : 256 ^ rest.length = 2 ^ 112 := by rw [hlength]; rfl
    have hnumber := Bytes.toNat_append [a, b] rest
    have hfirst : firstGroup (a :: b :: rest) = Bytes.toNat [a, b] := by
      simp [firstGroup, groupsOf, Bytes.toNat]
    rw [hpower] at hrest hnumber
    rw [hfirst, show a :: b :: rest = [a, b] ++ rest from rfl, hnumber]
    omega

/-- The bytes of a prefix are taken for local exactly if their number is. -/
theorem isLocal_iff_isLocalNumber {bytes : Bytes} (h : bytes.length = 16) :
    isLocal bytes = true ↔ IsLocalNumber (Bytes.toNat bytes) := by
  have hgroup := toNat_div_eq_firstGroup h
  have hloopback : bytes = loopback ↔ Bytes.toNat bytes = 1 := by
    rw [← Bytes.toNat_inj (show bytes.length = loopback.length from h)]
    rfl
  match bytes, h with
  | a :: b :: rest, h =>
    rw [isLocal_iff, hloopback, ← hgroup, IsLocalNumber]
    simp only [localBlocks, Block.Holds, List.exists_mem_cons_iff, List.not_mem_nil, false_and,
      exists_false, or_false]
    generalize Bytes.toNat (a :: b :: rest) = n
    omega

theorem isValidLength_natCast (n : Nat) : isValidLength n = true ↔ 1 ≤ n ∧ n ≤ 128 := by
  rw [isValidLength_iff]
  omega

/-! ## Options -/

/-- An option of an advertisement: a type, and a body that together with type and length fills a
number of units of eight bytes. -/
structure RouterOption where
  type : UInt8
  units : UInt8
  body : Bytes
  units_ne_zero : units ≠ 0
  length_body : body.length + 2 = units.toNat * 8

namespace RouterOption

variable (o : RouterOption)

/-- The bytes of an option. -/
def encode : Bytes := o.type :: o.units :: o.body

/-- The third byte, which in prefix information is the length of the prefix. -/
def prefixLength : Nat := (o.encode[2]?.getD 0).toNat

/-- The last sixteen of the first thirty-two bytes, which in prefix information are the prefix. -/
def prefixBytes : Bytes := (o.encode.drop 16).take 16

/-- Whether an option tells a prefix length of use: it is prefix information of full size, about a
prefix that is global. -/
def IsUseful : Prop :=
  o.type = prefixOption ∧ prefixOptionSize ≤ o.encode.length ∧
    (1 ≤ o.prefixLength ∧ o.prefixLength ≤ 128) ∧ ¬IsLocalNumber (Bytes.toNat o.prefixBytes)

instance : DecidablePred IsUseful := fun _ => inferInstanceAs (Decidable (_ ∧ _))

theorem units_toNat_pos : 0 < o.units.toNat := by
  rw [Nat.pos_iff_ne_zero]
  exact fun hzero => o.units_ne_zero (UInt8.toNat_inj.1 hzero)

/-- What an option tells is its prefix length if that is of use. -/
theorem lengthOfOption_body :
    lengthOfOption o.type o.body = if o.IsUseful then [o.prefixLength] else [] := by
  by_cases hinformation : o.type = prefixOption ∧ prefixOptionSize ≤ o.body.length + 2
  · have hsize : prefixOptionSize ≤ o.encode.length := hinformation.2
    have hbytes : o.prefixBytes = (o.body.drop 14).take 16 := rfl
    have hlength : o.prefixLength = (o.body.headD 0).toNat := by
      rw [prefixLength, encode]
      cases o.body <;> rfl
    have hsixteen : o.prefixBytes.length = 16 := by
      have h32 : prefixOptionSize = 32 := rfl
      rw [prefixBytes, List.length_take, List.length_drop]
      omega
    have huseful : o.IsUseful ↔
        (!isLocal o.prefixBytes && isValidLength o.prefixLength) = true := by
      rw [Bool.and_eq_true, Bool.not_eq_true', ← Bool.not_eq_true,
        isLocal_iff_isLocalNumber hsixteen, isValidLength_natCast, and_comm]
      exact (and_iff_right hinformation.1).trans (and_iff_right hsize)
    rw [lengthOfOption, if_pos (by simpa using hinformation), ← hbytes, ← hlength]
    simp only [huseful]
  · have hnot : ¬o.IsUseful := fun huseful => hinformation ⟨huseful.1, huseful.2.1⟩
    rw [lengthOfOption, if_neg (by simpa using hinformation), if_neg hnot]

end RouterOption

/-- Options one after another. -/
def encodeOptions (options : List RouterOption) : Bytes := options.flatMap RouterOption.encode

/-- The prefix lengths of use that options tell, in order. -/
def usefulLengths (options : List RouterOption) : List Nat :=
  (options.filter fun o => o.IsUseful).map RouterOption.prefixLength

/-! ## The walk over options -/

theorem lengthsOfOptions_of_lt {options : Bytes} (h : options.length < 2) :
    lengthsOfOptions options = [] := by
  match options, h with
  | [], _ => rw [lengthsOfOptions]; rintro _ _ _ ⟨⟩
  | [_], _ => rw [lengthsOfOptions]; rintro _ _ _ ⟨⟩

/-- The walk takes an option at the front into account and goes on behind it. -/
theorem lengthsOfOptions_encode_append (o : RouterOption) (rest : Bytes) :
    lengthsOfOptions (o.encode ++ rest) =
      (if o.IsUseful then [o.prefixLength] else []) ++ lengthsOfOptions rest := by
  have hpos := o.units_toNat_pos
  have hbody := o.length_body
  have hfits : ¬(o.units.toNat * 8 = 0 ∨ (o.body ++ rest).length + 2 < o.units.toNat * 8) := by
    rw [List.length_append]
    omega
  have hsize : o.body.length = o.units.toNat * 8 - 2 := by omega
  rw [RouterOption.encode, List.cons_append, List.cons_append, lengthsOfOptions,
    if_neg hfits, List.take_left' hsize, List.drop_left' hsize, o.lengthOfOption_body]

/-- Behind options that fit, the walk goes on as if they were not there. -/
theorem lengthsOfOptions_encodeOptions_append (options : List RouterOption) (tail : Bytes) :
    lengthsOfOptions (encodeOptions options ++ tail) =
      usefulLengths options ++ lengthsOfOptions tail := by
  induction options with
  | nil => rfl
  | cons o options ih =>
    rw [encodeOptions, List.flatMap_cons, List.append_assoc, lengthsOfOptions_encode_append,
      ← encodeOptions, ih, usefulLengths, usefulLengths, List.filter_cons]
    by_cases huseful : o.IsUseful <;> simp [huseful]

/-- Of options that are cut off somewhere, the walk sees a first part. -/
theorem lengthsOfOptions_take_prefix (options : Bytes) (k : Nat) :
    lengthsOfOptions (options.take k) <+: lengthsOfOptions options := by
  fun_induction lengthsOfOptions options generalizing k with
  | case1 type units rest size hstop =>
    match k with
    | 0 | 1 => rw [lengthsOfOptions_of_lt (by simp)]
    | k + 2 =>
      have hcut : size = 0 ∨ (rest.take k).length + 2 < size := by
        rw [List.length_take]
        omega
      rw [List.take_succ_cons, List.take_succ_cons, lengthsOfOptions, if_pos hcut]
  | case2 type units rest size hgoes ih =>
    match k with
    | 0 | 1 =>
      rw [lengthsOfOptions_of_lt (by simp)]
      exact List.nil_prefix
    | k + 2 =>
      rw [List.take_succ_cons, List.take_succ_cons, lengthsOfOptions]
      by_cases hcut : size = 0 ∨ (rest.take k).length + 2 < size
      · rw [if_pos hcut]
        exact List.nil_prefix
      · have hbody : size - 2 ≤ k := by
          rw [List.length_take] at hcut
          omega
        rw [if_neg hcut, List.take_take, Nat.min_eq_left hbody, List.drop_take]
        exact List.prefix_append_right_inj _ |>.2 (ih (k - (size - 2)))
  | case3 options hshort =>
    have hlength : options.length < 2 := by
      match options, hshort with
      | [], _ => exact Nat.zero_lt_succ 1
      | [_], _ => exact Nat.lt_succ_self 1
      | _ :: _ :: _, hshort => exact (hshort _ _ _ rfl).elim
    rw [lengthsOfOptions_of_lt ((List.length_take_le' k options).trans_lt hlength)]

/-! ## Rounds of the walk -/

/-- Whether an option with this type and of this many units stands at an offset of a packet, as a
whole. -/
structure OptionAt (packet : Bytes) (offset : Nat) (type units : UInt8) : Prop where
  type_eq : packet[offset]? = some type
  units_eq : packet[offset + 1]? = some units
  units_pos : 0 < units.toNat
  fits : offset + units.toNat * 8 ≤ packet.length

/-- A walk over a packet from an offset on ends after so many rounds and tells these lengths. A
round takes the option at the offset into account and goes on behind it; where there is no whole
option the walk ends. -/
inductive Walks (packet : Bytes) : Nat → Nat → List Nat → Prop where
  | stop {offset : Nat} (hnone : ∀ type units, ¬OptionAt packet offset type units) :
      Walks packet offset 0 []
  | round {offset rounds : Nat} {type units : UInt8} {more : List Nat}
      (hoption : OptionAt packet offset type units)
      (hmore : Walks packet (offset + units.toNat * 8) rounds more) :
      Walks packet offset (rounds + 1)
        (lengthOfOption type ((packet.drop (offset + 2)).take (units.toNat * 8 - 2)) ++ more)

section

variable {packet : Bytes} {offset : Nat}

/-- From the offset of an option on, a packet is its type, its length and what follows. -/
theorem OptionAt.drop_eq {type units : UInt8} (hoption : OptionAt packet offset type units) :
    packet.drop offset = type :: units :: packet.drop (offset + 2) := by
  obtain ⟨htype, rfl⟩ := List.getElem?_eq_some_iff.1 hoption.type_eq
  obtain ⟨hunits, rfl⟩ := List.getElem?_eq_some_iff.1 hoption.units_eq
  rw [List.drop_eq_getElem_cons htype, List.drop_eq_getElem_cons hunits]

theorem lengthsOfOptions_drop_of_optionAt {type units : UInt8}
    (hoption : OptionAt packet offset type units) :
    lengthsOfOptions (packet.drop offset) =
      lengthOfOption type ((packet.drop (offset + 2)).take (units.toNat * 8 - 2)) ++
        lengthsOfOptions (packet.drop (offset + units.toNat * 8)) := by
  have hpos := hoption.units_pos
  have hfits := hoption.fits
  have hgoes : ¬(units.toNat * 8 = 0 ∨
      (packet.drop (offset + 2)).length + 2 < units.toNat * 8) := by
    rw [List.length_drop]
    omega
  have hnext : offset + 2 + (units.toNat * 8 - 2) = offset + units.toNat * 8 := by omega
  rw [hoption.drop_eq, lengthsOfOptions, if_neg hgoes, List.drop_drop, hnext]

theorem lengthsOfOptions_drop_of_not_optionAt
    (hnone : ∀ type units, ¬OptionAt packet offset type units) :
    lengthsOfOptions (packet.drop offset) = [] := by
  by_cases hheader : offset + 1 < packet.length
  · have htype : packet[offset]? = some packet[offset] := List.getElem?_eq_getElem (by omega)
    have hunits : packet[offset + 1]? = some packet[offset + 1] := List.getElem?_eq_getElem hheader
    have hstop : packet[offset + 1].toNat * 8 = 0 ∨
        (packet.drop (offset + 2)).length + 2 < packet[offset + 1].toNat * 8 := by
      rw [List.length_drop]
      by_contra hgoes
      exact hnone _ _ ⟨htype, hunits, by omega, by omega⟩
    rw [List.drop_eq_getElem_cons (by omega), List.drop_eq_getElem_cons hheader, lengthsOfOptions,
      if_pos hstop]
  · refine lengthsOfOptions_of_lt ?_
    rw [List.length_drop]
    omega

/-- Every walk tells what the options from its offset on tell. -/
theorem Walks.lengths_eq {rounds : Nat} {lengths : List Nat}
    (hwalk : Walks packet offset rounds lengths) :
    lengths = lengthsOfOptions (packet.drop offset) := by
  induction hwalk with
  | stop hnone => rw [lengthsOfOptions_drop_of_not_optionAt hnone]
  | round hoption hmore ih => rw [lengthsOfOptions_drop_of_optionAt hoption, ih]

end

/-- From every offset there is a walk, and each of its rounds passes over eight bytes at least. -/
theorem exists_walks (packet : Bytes) (offset : Nat) :
    ∃ rounds, rounds * 8 ≤ packet.length - offset ∧
      Walks packet offset rounds (lengthsOfOptions (packet.drop offset)) := by
  induction hleft : packet.length - offset using Nat.strongRecOn generalizing offset with
  | ind left ih =>
    by_cases hoption : ∃ type units, OptionAt packet offset type units
    · obtain ⟨type, units, hoption⟩ := hoption
      have hpos := hoption.units_pos
      have hfits := hoption.fits
      obtain ⟨rounds, hrounds, hwalk⟩ := ih _ (by omega) (offset + units.toNat * 8) rfl
      refine ⟨rounds + 1, by omega, ?_⟩
      rw [lengthsOfOptions_drop_of_optionAt hoption]
      exact .round hoption hwalk
    · have hnone : ∀ type units, ¬OptionAt packet offset type units :=
        fun type units h => hoption ⟨type, units, h⟩
      refine ⟨0, by omega, ?_⟩
      rw [lengthsOfOptions_drop_of_not_optionAt hnone]
      exact .stop hnone

/-! ## Advertisements -/

/-- What an advertisement tells is found by a walk over its options.  Behind whole options, whatever
else follows them, it tells the lengths of use among theirs, in order, and then what it would tell
without them: of each option that is prefix information of full size, the length if it is from 1 to
128 and the prefix is no local one.  An advertisement cut off anywhere tells a first part of what
the whole one tells, and the walk from the header on always ends, within a round for each eight
bytes. -/
theorem lengthsOfAdvertisement_options {header : Bytes} (hheader : header.length = 16)
    (options : List RouterOption) (tail packet : Bytes) (k : Nat) :
    lengthsOfAdvertisement (header ++ encodeOptions options ++ tail) =
        usefulLengths options ++ lengthsOfAdvertisement (header ++ tail) ∧
      lengthsOfAdvertisement (packet.take k) <+: lengthsOfAdvertisement packet ∧
      (∃ rounds, rounds * 8 ≤ packet.length - 16 ∧
        Walks packet 16 rounds (lengthsOfAdvertisement packet)) ∧
      ∀ rounds lengths, Walks packet 16 rounds lengths → lengths = lengthsOfAdvertisement packet := by
  refine ⟨?_, ?_, exists_walks packet 16, fun _ _ hwalk => hwalk.lengths_eq⟩
  · have hoptions : ∀ bytes, (header ++ bytes).drop advertisementHeader = bytes :=
      fun bytes => List.drop_left' hheader
    rw [lengthsOfAdvertisement, lengthsOfAdvertisement, List.append_assoc, hoptions, hoptions,
      lengthsOfOptions_encodeOptions_append]
  · rw [lengthsOfAdvertisement, lengthsOfAdvertisement, List.drop_take]
    exact lengthsOfOptions_take_prefix _ _

/-- Prefix information about the prefix that begins with these bytes. -/
def prefixInformation (length a b c d : UInt8) : RouterOption where
  type := prefixOption
  units := 4
  body := [length, 0xC0] ++ List.replicate 12 0 ++ [a, b, c, d] ++ List.replicate 12 0
  units_ne_zero := by decide
  length_body := rfl

/-- The header of an advertisement without anything of interest. -/
def sampleHeader : Bytes := advertisementType :: List.replicate 15 0

/-- Of a link-local prefix, a global one and an option that is cut off behind its third byte, only
the global prefix has a length that is told. -/
theorem lengthsOfAdvertisement_options_twoPrefixes :
    sampleHeader.length = 16 ∧
      lengthsOfAdvertisement (sampleHeader ++ encodeOptions [prefixInformation 64 0xFE 0x80 0 0,
        prefixInformation 64 0x20 0x01 0x0D 0xB8] ++ [3, 4, 56]) = [64] := by
  have hheader : sampleHeader.length = 16 := rfl
  refine ⟨hheader, ?_⟩
  have hsplit := (lengthsOfAdvertisement_options hheader
    [prefixInformation 64 0xFE 0x80 0 0, prefixInformation 64 0x20 0x01 0x0D 0xB8] [3, 4, 56] [] 0).1
  have huseful : usefulLengths [prefixInformation 64 0xFE 0x80 0 0,
      prefixInformation 64 0x20 0x01 0x0D 0xB8] = [64] := by decide
  have hcut : lengthsOfAdvertisement (sampleHeader ++ [3, 4, 56]) = [] := by
    have hdrop : (sampleHeader ++ [3, 4, 56]).drop advertisementHeader = [3, 4, 56] := rfl
    rw [lengthsOfAdvertisement, hdrop, lengthsOfOptions, if_pos (by decide)]
  rw [hsplit, huseful, hcut]
  rfl

end HostReport.Ipv6
