import HostReport.Ipv6.Scope
import HostReport.Proofs.Address.CanonicalText

/-!
# The two scope decisions

An address that is not global is told by its bytes on one path and by the front of its text on
another.  Both see the first group only, and loopback.  The text does not show all of what the bytes
show: of the link-local block it knows the first group `fe80` alone, and because groups are written
without leading zeros it takes short groups, and what stands behind a gap, for fronts that they are
not.  These are all the addresses on which the two decisions differ.
-/

namespace HostReport.Ipv6

theorem isValidLength_iff {n : Int} : isValidLength n = true ↔ 1 ≤ n ∧ n ≤ 128 := by
  rw [isValidLength, Bool.and_eq_true, decide_eq_true_eq, decide_eq_true_eq]

/-- The first sixteen bits of an address. -/
def firstGroup (bytes : Bytes) : Nat := (groupsOf bytes).headD 0

/-- A first group of the link-local block other than the one its text is known by. -/
def IsHighLinkLocal (g : Nat) : Prop := 0xFE80 < g ∧ g ≤ 0xFEBF

/-- A group of two or three digits that are written as those of a local block begin. -/
def IsShortFront (g : Nat) : Prop := ∃ front ∈ [0xFC, 0xFD, 0xFF], g = front ∨ g / 16 = front

/-- The text begins with a gap, and behind it with a group whose first digit is one. -/
def HasOneBehindGap (gs : List Nat) : Prop :=
  OpensWithGap gs ∧ ['1'] <+: joinGroups (gs.drop (leadingZeros gs))

/-! ## By bytes -/

theorem linkLocal_low_byte : ∀ n < 256, (UInt8.ofNat n &&& 0xC0 == 0x80) =
    (decide (0x80 ≤ n) && decide (n ≤ 0xBF)) := by
  decide +kernel

theorem uniqueLocal_high_byte : ∀ n < 256, (UInt8.ofNat n &&& 0xFE == 0xFC) =
    (decide (n = 0xFC) || decide (n = 0xFD)) := by
  decide +kernel

/-- Which first groups are local, and the loopback address. -/
theorem isLocal_iff (a b : UInt8) (rest : Bytes) :
    isLocal (a :: b :: rest) = true ↔
      (0xFE80 ≤ firstGroup (a :: b :: rest) ∧ firstGroup (a :: b :: rest) ≤ 0xFEBF ∨
        ∃ front ∈ [0xFC, 0xFD, 0xFF], firstGroup (a :: b :: rest) / 256 = front) ∨
      a :: b :: rest = loopback := by
  have hfirst : firstGroup (a :: b :: rest) = a.toNat * 256 + b.toNat := rfl
  have ha : a.toNat < 256 := a.toNat_lt
  have hb : b.toNat < 256 := b.toNat_lt
  have hlow : (b &&& 0xC0 == 0x80) = (decide (0x80 ≤ b.toNat) && decide (b.toNat ≤ 0xBF)) := by
    simpa using linkLocal_low_byte b.toNat hb
  have hhigh : (a &&& 0xFE == 0xFC) = (decide (a.toNat = 0xFC) || decide (a.toNat = 0xFD)) := by
    simpa using uniqueLocal_high_byte a.toNat ha
  have hbyte (n : UInt8) : (a == n) = decide (a.toNat = n.toNat) := by
    rw [beq_eq_decide]
    exact decide_eq_decide.2 UInt8.toNat_inj.symm
  rw [isLocal, hlow, hhigh, hbyte 0xFE, hbyte 0xFF]
  have hFE : (0xFE : UInt8).toNat = 0xFE := rfl
  have hFF : (0xFF : UInt8).toNat = 0xFF := rfl
  rw [hfirst, hFE, hFF]
  simp only [Bool.or_eq_true, Bool.and_eq_true, decide_eq_true_eq, beq_iff_eq,
    List.exists_mem_cons_iff, List.not_mem_nil, false_and, exists_false, or_false]
  generalize (a :: b :: rest = loopback) = isLoopback
  by_cases hloopback : isLoopback
  · simp [hloopback]
  · simp only [hloopback, or_false]
    omega

/-! ## By text -/

/-- The fronts are looked for in the canonical text as it is. -/
theorem isPublicText_text_iff (bytes : Bytes) :
    isPublicText (text bytes) = false ↔
      ∃ front ∈ localFronts, front.toList <+: groupsText (groupsOf bytes) := by
  have hlower : Text.lower (text bytes).toList = groupsText (groupsOf bytes) := by
    rw [text, String.toList_ofList]
    exact Text.lower_eq_self (forall_mem_groupsText (groupsOf bytes))
  rw [isPublicText, hlower, Bool.not_eq_false', List.any_eq_true]
  simp only [List.isPrefixOf_iff_prefix]

/-- Digits dropped from a number of four digits leave one of two digits in three ways. -/
theorem exists_div_pow_eq_iff {g front : Nat} (hg : g < 0x10000) (hfront : 0x10 ≤ front) :
    (∃ k, g / 16 ^ k = front) ↔ g = front ∨ g / 16 = front ∨ g / 256 = front := by
  constructor
  · rintro ⟨k, hk⟩
    match k, hk with
    | 0, hk => exact .inl (by simpa using hk)
    | 1, hk => exact .inr (.inl (by simpa using hk))
    | 2, hk => exact .inr (.inr hk)
    | k + 3, hk =>
      have hsmall : g / 16 ^ (k + 3) ≤ g / 16 ^ 3 :=
        Nat.div_le_div_left (Nat.pow_le_pow_right (by decide) (by omega)) (by decide)
      omega
  · rintro (h | h | h)
    · exact ⟨0, by simpa using h⟩
    · exact ⟨1, by simpa using h⟩
    · exact ⟨2, h⟩

/-- Without a gap in front the text is told local by the digits of the first group. -/
theorem exists_localFront_iff_of_not_opensWithGap {g g' : Nat} {gs : List Nat} (hg : g < 0x10000)
    (hgap : ¬OpensWithGap (g :: g' :: gs)) :
    (∃ front ∈ localFronts, front.toList <+: groupsText (g :: g' :: gs)) ↔
      g = 0xFE80 ∨ ∃ front ∈ [0xFC, 0xFD, 0xFF], g = front ∨ g / 16 = front ∨ g / 256 = front := by
  obtain ⟨tail, htext⟩ := groupsText_of_not_opensWithGap hgap
  have hdigits {n : Nat} (hn : 0x10 ≤ n) : Nat.toDigits 16 n <+: groupsText (g :: g' :: gs) ↔
      g = n ∨ g / 16 = n ∨ g / 256 = n := by
    rw [htext, prefix_append_cons_iff (Text.colon_not_mem_toDigits n),
      Text.toDigits_prefix_iff (by omega), exists_div_pow_eq_iff hg hn]
  have hlinkLocal : "fe80".toList <+: groupsText (g :: g' :: gs) ↔ g = 0xFE80 := by
    rw [show "fe80".toList = Nat.toDigits 16 0xFE80 from rfl, hdigits (by decide)]
    omega
  have hloopback : ¬"::1".toList <+: groupsText (g :: g' :: gs) := by
    intro hfront
    have hne : Nat.toDigits 16 g ≠ [] := Nat.toDigits_ne_nil
    obtain ⟨digit, digits, hcons⟩ := List.exists_cons_of_ne_nil hne
    rw [htext, hcons] at hfront
    have hcolon : ':' = digit := (List.cons_prefix_cons.1 hfront).1
    apply Text.colon_not_mem_toDigits g
    rw [hcons, ← hcolon]
    exact List.mem_cons_self
  have hFC : "fc".toList <+: groupsText (g :: g' :: gs) ↔ _ := hdigits (n := 0xFC) (by decide)
  have hFD : "fd".toList <+: groupsText (g :: g' :: gs) ↔ _ := hdigits (n := 0xFD) (by decide)
  have hFF : "ff".toList <+: groupsText (g :: g' :: gs) ↔ _ := hdigits (n := 0xFF) (by decide)
  simp only [localFronts, List.exists_mem_cons_iff, List.not_mem_nil, false_and, exists_false,
    or_false, hlinkLocal, hFC, hFD, hFF, hloopback, false_or]

/-- With a gap in front it is told local by the group behind the gap. -/
theorem exists_localFront_iff_of_opensWithGap {gs : List Nat} (hgap : OpensWithGap gs) :
    (∃ front ∈ localFronts, front.toList <+: groupsText gs) ↔
      ['1'] <+: joinGroups (gs.drop (leadingZeros gs)) := by
  have hloopback : "::1".toList <+: groupsText gs ↔
      ['1'] <+: joinGroups (gs.drop (leadingZeros gs)) := by
    rw [groupsText_of_opensWithGap hgap, show "::1".toList = ':' :: ':' :: ['1'] from rfl,
      List.cons_prefix_cons, List.cons_prefix_cons]
    simp only [true_and]
  have hother {c : Char} {front : List Char} (hc : c ≠ ':') : ¬c :: front <+: groupsText gs := by
    rw [groupsText_of_opensWithGap hgap, List.cons_prefix_cons]
    exact fun h => hc h.1
  have hFE80 : ¬"fe80".toList <+: groupsText gs := hother (by decide)
  have hFC : ¬"fc".toList <+: groupsText gs := hother (by decide)
  have hFD : ¬"fd".toList <+: groupsText gs := hother (by decide)
  have hFF : ¬"ff".toList <+: groupsText gs := hother (by decide)
  simp only [localFronts, List.exists_mem_cons_iff, List.not_mem_nil, false_and, exists_false,
    or_false, hloopback, hFE80, hFC, hFD, hFF, false_or]

/-- The text is told local by a one behind a gap or by the digits of the first group. -/
theorem exists_localFront_iff {g : Nat} (hg : g < 0x10000) (g' : Nat) (gs : List Nat) :
    (∃ front ∈ localFronts, front.toList <+: groupsText (g :: g' :: gs)) ↔
      HasOneBehindGap (g :: g' :: gs) ∨ g = 0xFE80 ∨
        ∃ front ∈ [0xFC, 0xFD, 0xFF], g = front ∨ g / 16 = front ∨ g / 256 = front := by
  by_cases hgap : OpensWithGap (g :: g' :: gs)
  · have hzero : g = 0 := hgap.head_eq_zero
    have hone : HasOneBehindGap (g :: g' :: gs) ↔ _ := and_iff_right hgap
    rw [exists_localFront_iff_of_opensWithGap hgap, hone, hzero]
    simp
  · have hone : ¬HasOneBehindGap (g :: g' :: gs) := fun hone => hgap hone.1
    rw [exists_localFront_iff_of_not_opensWithGap hg hgap]
    exact (or_iff_right hone).symm

/-! ## Where they differ -/

/-- The loopback address is one behind a gap. -/
theorem hasOneBehindGap_loopback : HasOneBehindGap (groupsOf loopback) := by
  refine ⟨⟨?_, ?_⟩, ?_⟩
  · decide
  · decide
  · decide

/-- The bytes and the canonical text of an address are told apart in two ways.  The text counts as
global and the bytes do not exactly for the high part of the link-local block; the bytes count as
global and the text does not exactly for a short first group and for a one behind a gap that is not
the loopback address. -/
theorem scopes_differ_iff {bytes : Bytes} (h : bytes.length = 16) :
    (isNonGlobalPrefix bytes = .ok true ∧ isPublicText (text bytes) = true ↔
      IsHighLinkLocal (firstGroup bytes)) ∧
    (isNonGlobalPrefix bytes = .ok false ∧ isPublicText (text bytes) = false ↔
      IsShortFront (firstGroup bytes) ∨ HasOneBehindGap (groupsOf bytes) ∧ bytes ≠ loopback) := by
  have hbytes (value : Bool) : isNonGlobalPrefix bytes = .ok value ↔ isLocal bytes = value := by
    rw [isNonGlobalPrefix, if_pos h, Except.ok.injEq]
  have hglobal : isLocal bytes = false ↔ ¬isLocal bytes = true := by
    rw [Bool.not_eq_true]
  have htext := isPublicText_text_iff bytes
  have hpublic := not_congr htext
  rw [Bool.not_eq_false] at hpublic
  rw [hbytes, hbytes, hglobal, hpublic, htext]
  have hloopback : bytes = loopback → HasOneBehindGap (groupsOf bytes) := fun hb =>
    hb ▸ hasOneBehindGap_loopback
  match bytes, h with
  | a :: b :: c :: d :: rest, _ =>
    have hgroups : groupsOf (a :: b :: c :: d :: rest) =
        firstGroup (a :: b :: c :: d :: rest) :: (c.toNat * 256 + d.toNat) :: groupsOf rest := rfl
    have hlocal := isLocal_iff a b (c :: d :: rest)
    have hsize : firstGroup (a :: b :: c :: d :: rest) < 0x10000 := by
      have ha : a.toNat < 256 := a.toNat_lt
      have hb : b.toNat < 256 := b.toNat_lt
      have hfirst : firstGroup (a :: b :: c :: d :: rest) = a.toNat * 256 + b.toNat := rfl
      omega
    have hzero : HasOneBehindGap (groupsOf (a :: b :: c :: d :: rest)) →
        firstGroup (a :: b :: c :: d :: rest) = 0 := fun hone => (hgroups ▸ hone.1).head_eq_zero
    have hfronts := exists_localFront_iff hsize (c.toNat * 256 + d.toNat) (groupsOf rest)
    rw [← hgroups] at hfronts
    rw [hlocal, hfronts, IsHighLinkLocal, IsShortFront]
    simp only [List.exists_mem_cons_iff, List.not_mem_nil, false_and, exists_false, or_false]
    generalize firstGroup (a :: b :: c :: d :: rest) = g at *
    -- A one behind a gap leaves the first group zero, and anything else is not loopback.
    by_cases hone : HasOneBehindGap (groupsOf (a :: b :: c :: d :: rest))
    · have hg : g = 0 := hzero hone
      simp [hone, hg]
    · have hne : ¬a :: b :: c :: d :: rest = loopback := fun hb => hone (hloopback hb)
      simp only [hone, hne, or_false, false_or, false_and]
      omega

/-- The address `febf::1`, as bytes. -/
def highLinkLocal : Bytes := [0xFE, 0xBF] ++ List.replicate 13 0 ++ [1]

/-- The bytes of `febf::1` are those of a local address and its text is that of a global one. -/
theorem scopes_differ_highLinkLocal : highLinkLocal.length = 16 ∧
    isNonGlobalPrefix highLinkLocal = .ok true ∧ isPublicText (text highLinkLocal) = true :=
  ⟨rfl, (scopes_differ_iff rfl).1.2 ⟨by decide, by decide⟩⟩

/-- The two decisions do not agree on every address. -/
theorem not_scopes_agree : ¬∀ bytes : Bytes, bytes.length = 16 →
    (isPublicText (text bytes) = true ↔ isNonGlobalPrefix bytes = .ok false) := by
  intro hagree
  have hagrees := hagree highLinkLocal rfl
  revert hagrees
  decide

end HostReport.Ipv6
