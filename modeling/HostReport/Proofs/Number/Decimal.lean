import HostReport.Number.Fixed
import HostReport.Proofs.Number.Numeral
import HostReport.Proofs.Text.Scan
import HostReport.Proofs.Text.Search
import Mathlib.Algebra.Order.Field.Rat
import Mathlib.Tactic.NormNum

/-!
# Decimals read back

What a decimal with a point denotes is a fraction, and none of it is rounded: the number of its
digits, divided by a power of ten for the digits behind the point.  A number of hundredths is read
back from its text.
-/

namespace HostReport

open Text

namespace Numeral

/-- Whether the text holds at least one digit and nothing else. -/
def IsPlainDigits (s : List Char) : Prop := s ≠ [] ∧ ∀ c ∈ s, c.isDigit = true

instance : DecidablePred IsPlainDigits :=
  fun s => inferInstanceAs (Decidable (s ≠ [] ∧ ∀ c ∈ s, c.isDigit = true))

/-- The number that a decimal with a point denotes, if the text is one. -/
def readDecimal? (s : List Char) : Option ℚ :=
  (cut? '.' s).bind fun p =>
    if IsPlainDigits p.1 ∧ IsPlainDigits p.2 then
      some ((ofAsciiDigits (p.1 ++ p.2) : ℚ) / 10 ^ p.2.length)
    else none

theorem readDecimal?_append {whole fraction : List Char} (hwhole : IsPlainDigits whole)
    (hfraction : IsPlainDigits fraction) :
    readDecimal? (whole ++ '.' :: fraction) =
      some ((ofAsciiDigits (whole ++ fraction) : ℚ) / 10 ^ fraction.length) := by
  have hpoint : '.' ∉ whole := fun hmem => absurd (hwhole.2 '.' hmem) (by decide)
  rw [readDecimal?, cut?_append_cons hpoint, Option.bind_some, if_pos ⟨hwhole, hfraction⟩]

theorem isPlainDigits_toDigits (n : Nat) : IsPlainDigits (Nat.toDigits 10 n) :=
  ⟨Nat.toDigits_ne_nil, isDigit_of_mem_toDigits⟩

end Numeral

open Numeral

/-! ## Hundredths -/

/-- The two digits behind the point. -/
def fractionDigits (f : Nat) : List Char := [(f / 10).digitChar, (f % 10).digitChar]

theorem toList_fractionText {f : Nat} (hf : f < 100) :
    ((if f < 10 then "0" else "") ++ toString f : String).toList = fractionDigits f := by
  have hdigits : (toString f).toList = Nat.toDigits 10 f := by simp [Nat.repr]
  rw [String.toList_append, hdigits, fractionDigits]
  by_cases hsmall : f < 10
  · rw [if_pos hsmall, Nat.toDigits_of_lt_base hsmall, Nat.div_eq_of_lt hsmall,
      Nat.mod_eq_of_lt hsmall]
    rfl
  · have htens : f / 10 < 10 := by omega
    rw [if_neg hsmall, Nat.toDigits_of_base_le (by decide) (Nat.not_lt.1 hsmall),
      Nat.toDigits_of_lt_base htens]
    rfl

theorem toList_hundredthsText (h : Nat) :
    (hundredthsText h).toList = Nat.toDigits 10 (h / 100) ++ '.' :: fractionDigits (h % 100) := by
  rw [← toList_fractionText (Nat.mod_lt h (by decide))]
  simp [hundredthsText, Nat.repr]

theorem isPlainDigits_fractionDigits : ∀ f < 100, IsPlainDigits (fractionDigits f) := by
  decide

theorem isDigit_or_point_of_mem_hundredthsText {h : Nat} {c : Char}
    (hc : c ∈ (hundredthsText h).toList) : c.isDigit = true ∨ c = '.' := by
  rw [toList_hundredthsText, List.mem_append, List.mem_cons] at hc
  rcases hc with hc | rfl | hc
  · exact .inl (isDigit_of_mem_toDigits c hc)
  · exact .inr rfl
  · exact .inl ((isPlainDigits_fractionDigits _ (Nat.mod_lt h (by decide))).2 c hc)

theorem ofAsciiDigits_append_fractionDigits (ds : List Char) {f : Nat} (hf : f < 100) :
    ofAsciiDigits (ds ++ fractionDigits f) = 100 * ofAsciiDigits ds + f := by
  have hvalue {d : Nat} (hd : d < 10) : d.digitChar.toNat - 48 = d := by
    rw [Nat.toNat_digitChar_of_lt_ten hd]
    omega
  rw [fractionDigits, ← List.singleton_append, ← List.append_assoc, ofAsciiDigits_concat,
    ofAsciiDigits_concat, hvalue (by omega), hvalue (by omega)]
  omega

/-- A number of hundredths is read back from its text. -/
theorem readDecimal?_hundredthsText (h : Nat) :
    readDecimal? (hundredthsText h).toList = some ((h : ℚ) / 100) := by
  have hf : h % 100 < 100 := Nat.mod_lt h (by decide)
  have hvalue : ofAsciiDigits (Nat.toDigits 10 (h / 100) ++ fractionDigits (h % 100)) = h := by
    rw [ofAsciiDigits_append_fractionDigits _ hf, ofAsciiDigits_toDigits]
    exact Nat.div_add_mod h 100
  have hplaces : (10 : ℚ) ^ (fractionDigits (h % 100)).length = 100 := by
    rw [show (fractionDigits (h % 100)).length = 2 from rfl]
    norm_num
  rw [toList_hundredthsText, readDecimal?_append (isPlainDigits_toDigits _)
    (isPlainDigits_fractionDigits _ hf), hvalue, hplaces]

end HostReport
