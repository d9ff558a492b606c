import HostReport.Storage.Size
import HostReport.Proofs.Number.Decimal
import HostReport.Proofs.Number.Nearest
import Mathlib.Tactic.Linarith

/-!
# Sizes and their units

A size is written in megabytes or in gigabytes, and which of them it is depends on the number of
bytes alone, whether it was told in bytes, in kilobytes or in megabytes (`sizeText_agrees`).  Up to
`2 ^ 53` bytes nothing is lost but what rounding to hundredths of the unit takes away.  So a size is
read back with an error of half a hundredth at most, and a larger one is not read back as less
(`sizeText_read_back`).  Where the unit changes, what is just below a gigabyte is rounded up to 1024
megabytes, and no further.
-/

namespace HostReport

/-! ## Units -/

/-- The units in which sizes are written. -/
inductive SizeUnit where
  | megabytes
  | gigabytes
  deriving DecidableEq

namespace SizeUnit

/-- The name that stands behind the number. -/
def name : SizeUnit → String
  | megabytes => "MB"
  | gigabytes => "GB"

/-- The bytes that make one. -/
def bytes : SizeUnit → Nat
  | megabytes => megabyte
  | gigabytes => gigabyte

/-- The unit in which a number of bytes is written. -/
def ofBytes (n : Int) : SizeUnit := if n < gigabyte then megabytes else gigabytes

/-- The unit of this name. -/
def ofName? (name : List Char) : Option SizeUnit :=
  [megabytes, gigabytes].find? fun u => u.name.toList = name

theorem ofName?_name (u : SizeUnit) : ofName? u.name.toList = some u := by
  cases u <;> rfl

theorem ofBytes_of_lt {n : Int} (hn : n < gigabyte) : ofBytes n = megabytes := if_pos hn

theorem ofBytes_of_le {n : Int} (hn : gigabyte ≤ n) : ofBytes n = gigabytes :=
  if_neg (Int.not_lt.2 hn)

/-- Where the unit changes, there is a gigabyte in between. -/
theorem gigabyte_between {n m : Nat} (hnm : n ≤ m) (hunit : ofBytes n ≠ ofBytes m) :
    n ≤ gigabyte ∧ gigabyte ≤ m := by
  rcases Nat.lt_or_ge n gigabyte with hn | hn
  · rcases Nat.lt_or_ge m gigabyte with hm | hm
    · have hsame := ofBytes_of_lt (Int.ofNat_lt.2 hm)
      exact absurd ((ofBytes_of_lt (Int.ofNat_lt.2 hn)).trans hsame.symm) hunit
    · exact ⟨hn.le, hm⟩
  · have hsame := ofBytes_of_le (Int.ofNat_le.2 (hn.trans hnm))
    exact absurd ((ofBytes_of_le (Int.ofNat_le.2 hn)).trans hsame.symm) hunit

theorem exists_bytes_eq (u : SizeUnit) : ∃ k ≤ 1074, u.bytes = 2 ^ k := by
  cases u with
  | megabytes => exact ⟨20, by decide, rfl⟩
  | gigabytes => exact ⟨30, by decide, rfl⟩

theorem bytes_pos (u : SizeUnit) : 0 < u.bytes := by
  cases u <;> decide

end SizeUnit

open SizeUnit

theorem sizeText_whole (n : Int) :
    sizeText (.whole n) = quotientText n (ofBytes n).bytes (ofBytes n).name := by
  rw [sizeText, ofBytes]
  split
  · rfl
  · rfl

/-- The text ends with the name of the unit. -/
theorem exists_quotientText_eq {n : Int} {d : Nat} {unit text : String}
    (htext : quotientText n d unit = .ok text) : ∃ number, text = number ++ " " ++ unit := by
  rw [quotientText] at htext
  cases hx : Binary64.ofQuotient? n d with
  | none =>
    rw [hx] at htext
    exact nomatch htext
  | some x =>
    rw [hx] at htext
    exact ⟨x.toFixed, (Except.ok.inj htext).symm⟩

/-- A size told in parts of a unit is written as if it was told in parts of these parts. -/
theorem quotientText_mul_right (n : Int) (d : Nat) {c : Nat} (hc : 0 < c) (unit : String) :
    quotientText (n * c) (d * c) unit = quotientText n d unit := by
  rw [quotientText, quotientText, Binary64.ofQuotient?_mul_right n d hc]

/-! ## Kilobytes and megabytes -/

theorem kilobytesText_eq_sizeText {k : Int} (hk : 1024 ≤ k) :
    kilobytesText k = sizeText (.whole (k * kilobyte)) := by
  have hkilobyte : 0 < kilobyte := by decide
  have hmegabyte : megabyte = 1024 * kilobyte := rfl
  have hgigabyte : gigabyte = 1024 * 1024 * kilobyte := by decide
  have hunit : k * kilobyte < gigabyte ↔ ¬1024 * 1024 ≤ k := by
    simp only [gigabyte, megabyte, kilobyte]
    omega
  rw [kilobytesText, sizeText]
  by_cases hlarge : 1024 * 1024 ≤ k
  · rw [if_pos hlarge, if_neg (not_not.2 hlarge ∘ hunit.1), hgigabyte]
    exact (quotientText_mul_right k (1024 * 1024) hkilobyte "GB").symm
  · rw [if_neg hlarge, if_pos hk, if_pos (hunit.2 hlarge), hmegabyte]
    exact (quotientText_mul_right k 1024 hkilobyte "MB").symm

/-- Whole numbers that doubles hold are divided by powers of two without loss. -/
theorem quotientText_two_pow {n : Int} (hn : n.natAbs ≤ 2 ^ 53) {k : Nat} (hk : k ≤ 1074)
    (unit : String) :
    quotientText n (2 ^ k) unit =
      .ok ((Binary64.ofRatio (decide (n < 0)) n.natAbs (2 ^ k)).toFixed ++ " " ++ unit) := by
  have hfinite : (Binary64.ofRatio (decide (n < 0)) n.natAbs (2 ^ k)).isFinite = true := by
    obtain ⟨_, heq⟩ := Binary64.ofRatio_two_pow (decide (n < 0)) hn hk
    rw [heq, Binary64.isFinite]
  simp only [quotientText, Binary64.ofQuotient?, if_pos hfinite, Option.elim_some]

theorem megabytesText_ofInt {m : Int} (hm : m.natAbs ≤ 2 ^ 53) :
    megabytesText (.ofInt m) =
      if m < 1024 then (Binary64.ofRatio (decide (m < 0)) m.natAbs (2 ^ 0)).toFixed ++ " MB"
      else (Binary64.ofRatio (decide (m < 0)) m.natAbs (2 ^ 10)).toFixed ++ " GB" := by
  have hthousand : (1024 : Binary64) = .ofInt (2 ^ 10 : Nat) := Binary64.ofNat_eq_ofInt 1024
  have hnan : Binary64.ofInt m ≠ .nan := by
    obtain ⟨_, heq⟩ := Binary64.ofInt_eq hm
    rw [heq]
    exact nofun
  have hless : (Binary64.ofInt m = .nan ∨ (Binary64.ofInt m).lt 1024 = true) ↔ m < 1024 := by
    rw [or_iff_right hnan, hthousand]
    exact Binary64.lt_ofInt_iff hm (by decide)
  have hone : Binary64.ofInt m = .ofRatio (decide (m < 0)) m.natAbs (2 ^ 0) := rfl
  have hquotient : Binary64.ofInt m / 1024 = .ofRatio (decide (m < 0)) m.natAbs (2 ^ 10) := by
    rw [hthousand, Binary64.ofInt_div_natCast hm (by decide) (Nat.two_pow_pos 10)]
  rw [megabytesText, hquotient]
  exact if_congr hless (by rw [hone]) rfl

theorem sizeText_eq_megabytesText {m : Int} (hm : m.natAbs ≤ 2 ^ 53) :
    sizeText (.whole (m * megabyte)) = .ok (megabytesText (.ofInt m)) := by
  have hmegabyte : 0 < megabyte := by decide
  have hunit : m * megabyte < gigabyte ↔ m < 1024 := by
    simp only [gigabyte, megabyte, kilobyte]
    omega
  have hspace (s unit : String) : s ++ " " ++ unit = s ++ (" " ++ unit) := String.append_assoc
  rw [sizeText, megabytesText_ofInt hm]
  by_cases hsmall : m < 1024
  · have hone : quotientText (m * megabyte) megabyte "MB" = quotientText m (2 ^ 0) "MB" := by
      rw [← quotientText_mul_right m (2 ^ 0) hmegabyte, Nat.pow_zero, Nat.one_mul]
    rw [if_pos (hunit.2 hsmall), if_pos hsmall, hone, quotientText_two_pow hm (Nat.zero_le 1074),
      hspace]
    rfl
  · have hgigabyte : gigabyte = 2 ^ 10 * megabyte := by decide
    rw [if_neg (mt hunit.1 hsmall), if_neg hsmall, hgigabyte,
      quotientText_mul_right m (2 ^ 10) hmegabyte, quotientText_two_pow hm (by decide), hspace]
    rfl

/-! ## Sizes in hundredths -/

/-- A number of bytes in hundredths of the unit in which it is written. -/
def sizeHundredths (n : Nat) : Nat := roundQuotient (n * 100) (ofBytes n).bytes

theorem sizeText_natCast {n : Nat} (hn : n ≤ 2 ^ 53) :
    sizeText (.whole n) = .ok (hundredthsText (sizeHundredths n) ++ " " ++ (ofBytes n).name) := by
  obtain ⟨k, hk, hbytes⟩ := (ofBytes n).exists_bytes_eq
  have hsign : decide ((n : Int) < 0) = false := decide_eq_false (by omega)
  rw [sizeText_whole, sizeHundredths, hbytes, quotientText_two_pow (n := n) hn hk,
    Int.natAbs_natCast, Binary64.toFixed_ofRatio_two_pow _ hn hk, hsign]
  rfl

/-- Rounding to hundredths takes away half a hundredth of the unit at most. -/
theorem sizeHundredths_nearest (n : Nat) :
    2 * (100 * n) ≤ 2 * (sizeHundredths n * (ofBytes n).bytes) + (ofBytes n).bytes ∧
      2 * (sizeHundredths n * (ofBytes n).bytes) ≤ 2 * (100 * n) + (ofBytes n).bytes := by
  rw [Nat.mul_comm 100 n]
  exact roundQuotient_nearest (n * 100) (ofBytes n).bytes_pos

/-- What is written does not become less when the size becomes larger, whatever the unit. -/
theorem sizeHundredths_mul_bytes_mono {n m : Nat} (hnm : n ≤ m) :
    sizeHundredths n * (ofBytes n).bytes ≤ sizeHundredths m * (ofBytes m).bytes := by
  -- Across the change of the unit the two roundings cannot be compared with each other.  But a
  -- gigabyte is exact in both units, so that each of them can be compared with it.
  have hexact (u : SizeUnit) :
      roundQuotient (gigabyte * 100) u.bytes * u.bytes = gigabyte * 100 := by
    have hdvd : u.bytes ∣ gigabyte * 100 := by
      cases u <;> decide
    rw [roundQuotient_of_dvd u.bytes_pos hdvd, Nat.div_mul_cancel hdvd]
  have hround (u : SizeUnit) {a b : Nat} (hab : a ≤ b) :
      roundQuotient (a * 100) u.bytes * u.bytes ≤ roundQuotient (b * 100) u.bytes * u.bytes :=
    Nat.mul_le_mul_right _ (roundQuotient_mono u.bytes_pos (Nat.mul_le_mul_right 100 hab))
  by_cases hunit : ofBytes n = ofBytes m
  · rw [sizeHundredths, sizeHundredths, hunit]
    exact hround (ofBytes m) hnm
  · obtain ⟨hbelow, habove⟩ := gigabyte_between hnm hunit
    calc sizeHundredths n * (ofBytes n).bytes
        ≤ roundQuotient (gigabyte * 100) (ofBytes n).bytes * (ofBytes n).bytes :=
          hround _ hbelow
      _ = gigabyte * 100 := hexact _
      _ = roundQuotient (gigabyte * 100) (ofBytes m).bytes * (ofBytes m).bytes := (hexact _).symm
      _ ≤ sizeHundredths m * (ofBytes m).bytes := hround _ habove

/-! ## Reading back -/

/-- A size as it stands in a text. -/
structure WrittenSize where
  number : ℚ
  unit : SizeUnit
  deriving DecidableEq

namespace WrittenSize

/-- How many bytes are meant. -/
def bytes (x : WrittenSize) : ℚ := x.number * x.unit.bytes

/-- Reads a decimal and the name of a unit with a space between them. -/
def ofText? (text : String) : Option WrittenSize := do
  let (number, unit) ← Text.cut? ' ' text.toList
  return { number := ← Numeral.readDecimal? number, unit := ← SizeUnit.ofName? unit }

theorem ofText?_hundredthsText (h : Nat) (u : SizeUnit) :
    ofText? (hundredthsText h ++ " " ++ u.name) = some { number := h / 100, unit := u } := by
  have hspace : ' ' ∉ (hundredthsText h).toList := fun hmem =>
    absurd (isDigit_or_point_of_mem_hundredthsText hmem) (by decide)
  have htext : (hundredthsText h ++ " " ++ u.name).toList =
      (hundredthsText h).toList ++ ' ' :: u.name.toList := by
    simp
  rw [ofText?, htext, Text.cut?_append_cons hspace, Option.bind_eq_bind, Option.bind_some]
  dsimp only
  rw [readDecimal?_hundredthsText, ofName?_name]
  rfl

example : ofText? "1.50 GB" = some { number := 3 / 2, unit := .gigabytes } := by decide +kernel

/-- What stands in the text of a number of bytes. -/
def ofBytes (n : Nat) : WrittenSize where
  number := sizeHundredths n / 100
  unit := .ofBytes n

theorem unit_ofBytes (n : Nat) : (ofBytes n).unit = .ofBytes n := by
  rw [ofBytes]

theorem bytes_ofBytes (n : Nat) :
    (ofBytes n).bytes = (sizeHundredths n * (SizeUnit.ofBytes n).bytes : Nat) / 100 := by
  rw [bytes, ofBytes, Nat.cast_mul]
  ring

theorem abs_bytes_ofBytes_sub_le (n : Nat) :
    |(ofBytes n).bytes - n| ≤ 5 / 1000 * (SizeUnit.ofBytes n).bytes := by
  obtain ⟨hlow, hhigh⟩ := sizeHundredths_nearest n
  rw [bytes_ofBytes]
  generalize sizeHundredths n * (SizeUnit.ofBytes n).bytes = written at *
  have hlow : 2 * (100 * n : ℚ) ≤ 2 * written + (SizeUnit.ofBytes n).bytes := by
    exact_mod_cast hlow
  have hhigh : (2 : ℚ) * written ≤ 2 * (100 * n) + (SizeUnit.ofBytes n).bytes := by
    exact_mod_cast hhigh
  rw [abs_le]
  constructor
  · linarith
  · linarith

theorem bytes_ofBytes_mono {n m : Nat} (hnm : n ≤ m) : (ofBytes n).bytes ≤ (ofBytes m).bytes := by
  rw [bytes_ofBytes, bytes_ofBytes]
  have hmono := sizeHundredths_mul_bytes_mono hnm
  gcongr

end WrittenSize

/-- A size of at most `2 ^ 53` bytes is read back with an error of half a hundredth of its unit at
most, and a larger size is not read back as less. -/
theorem sizeText_read_back {n m : Int} (hn : 0 ≤ n) (hnm : n ≤ m) (hm : m < 2 ^ 53) :
    ∃ s t x y, sizeText (.whole n) = .ok s ∧ sizeText (.whole m) = .ok t ∧
      WrittenSize.ofText? s = some x ∧ WrittenSize.ofText? t = some y ∧
      x.unit = .ofBytes n ∧ |x.bytes - n| ≤ 5 / 1000 * x.unit.bytes ∧ x.bytes ≤ y.bytes := by
  obtain ⟨a, rfl⟩ := Int.eq_ofNat_of_zero_le hn
  obtain ⟨b, rfl⟩ := Int.eq_ofNat_of_zero_le (hn.trans hnm)
  have hab : a ≤ b := Int.ofNat_le.1 hnm
  have hb : b ≤ 2 ^ 53 := by omega
  refine ⟨_, _, .ofBytes a, .ofBytes b, sizeText_natCast (hab.trans hb), sizeText_natCast hb,
    WrittenSize.ofText?_hundredthsText _ _, WrittenSize.ofText?_hundredthsText _ _,
    WrittenSize.unit_ofBytes a, ?_, WrittenSize.bytes_ofBytes_mono hab⟩
  rw [WrittenSize.unit_ofBytes]
  exact_mod_cast WrittenSize.abs_bytes_ofBytes_sub_le a

/-- One byte less than a gigabyte is written in megabytes, and is read back as a gigabyte. -/
theorem sizeText_read_back_belowGigabyte :
    ∃ x y, WrittenSize.ofText? "1024.00 MB" = some x ∧ WrittenSize.ofText? "1.00 GB" = some y ∧
      sizeText (.whole 1073741823) = .ok "1024.00 MB" ∧
      sizeText (.whole 1073741824) = .ok "1.00 GB" ∧
      x.unit = .megabytes ∧ |x.bytes - 1073741823| ≤ 5 / 1000 * (megabyte : ℚ) ∧
      x.bytes ≤ y.bytes := by
  have hbelow : sizeText (.whole 1073741823) = .ok "1024.00 MB" := by decide +kernel
  have hgigabyte : sizeText (.whole 1073741824) = .ok "1.00 GB" := by decide +kernel
  obtain ⟨s, t, x, y, hs, ht, hx, hy, hunit, herror, hmono⟩ :=
    sizeText_read_back (n := 1073741823) (m := 1073741824) (by decide) (by decide) (by decide)
  obtain rfl : s = "1024.00 MB" := Except.ok.inj (hs.symm.trans hbelow)
  obtain rfl : t = "1.00 GB" := Except.ok.inj (ht.symm.trans hgigabyte)
  have hmegabytes : x.unit = .megabytes := hunit.trans (by decide)
  rw [hmegabytes] at herror
  exact ⟨x, y, hx, hy, hbelow, hgigabyte, hmegabytes, herror, hmono⟩

/-! ## Agreement -/

/-- A size is written alike whichever unit it is told in: from 1024 kilobytes on, where it can be
written and where it cannot, and up to `2 ^ 53` megabytes.  The unit that it is written in depends
on the number of bytes alone. -/
theorem sizeText_agrees {k m : Int} (hk : 1024 ≤ k) (hm : m.natAbs ≤ 2 ^ 53) :
    kilobytesText k = sizeText (.whole (1024 * k)) ∧
      sizeText (.whole (m * 2 ^ 20)) = .ok (megabytesText (.ofInt m)) ∧
      ∀ n text, sizeText (.whole n) = .ok text →
        ∃ number, text = number ++ " " ++ (SizeUnit.ofBytes n).name := by
  refine ⟨?_, sizeText_eq_megabytesText hm, fun n text htext => ?_⟩
  · rw [Int.mul_comm]
    exact kilobytesText_eq_sizeText hk
  · rw [sizeText_whole] at htext
    exact exists_quotientText_eq htext

/-- Sizes at the change of the unit. -/
theorem sizeText_agrees_atGigabyte :
    kilobytesText 1048575 = sizeText (.whole (1024 * 1048575)) ∧
      kilobytesText 1048575 = .ok "1024.00 MB" ∧
      sizeText (.whole (1024 * 2 ^ 20)) = .ok (megabytesText (.ofInt 1024)) ∧
      megabytesText (.ofInt 1024) = "1.00 GB" := by
  obtain ⟨hk, hm, -⟩ := sizeText_agrees (k := 1048575) (m := 1024) (by decide) (by decide)
  exact ⟨hk, by decide +kernel, hm, by decide +kernel⟩

end HostReport
