import HostReport.Number.Numeral
import HostReport.Proofs.Text.Blank
import Mathlib.Algebra.Group.Nat.Defs
import Mathlib.Data.List.Induction

/-!
# Numerals of numbers

A natural number is read back from its decimal digits, unless it has more digits than are read.  The
other way round, digits without a leading zero are those of the number that they denote.
-/

namespace HostReport.Numeral

open Text

/-! ## Digits -/

theorem toNat_of_isDigit {c : Char} (hc : c.isDigit = true) : 48 ≤ c.toNat ∧ c.toNat ≤ 57 := by
  rw [Char.isDigit, Bool.and_eq_true, decide_eq_true_eq, decide_eq_true_eq] at hc
  exact hc

theorem decimalValue?_of_isDigit {c : Char} (hc : c.isDigit = true) :
    decimalValue? c = some (c.toNat - 48) := by
  have hrange := toNat_of_isDigit hc
  have hascii : c.toNat < 128 := by omega
  rw [decimalValue?]
  simp only [if_pos hascii, if_pos hrange]

theorem isDecimal_of_isDigit {c : Char} (hc : c.isDigit = true) : isDecimal c = true := by
  rw [isDecimal, decimalValue?_of_isDigit hc]
  rfl

/-- The numbers of the blanks. -/
def blankCodes : List Nat :=
  List.range' 9 5 ++ List.range' 28 5 ++ [0x85, 0xA0, 0x1680] ++ List.range' 0x2000 11 ++
    [0x2028, 0x2029, 0x202F, 0x205F, 0x3000]

theorem toNat_mem_blankCodes {c : Char} (hc : isBlank c = true) : c.toNat ∈ blankCodes := by
  simp only [isBlank, Bool.or_eq_true, Bool.and_eq_true, decide_eq_true_eq, beq_iff_eq] at hc
  simp only [blankCodes, List.mem_append, List.mem_range'_1, List.mem_cons, List.not_mem_nil,
    or_false]
  omega

/-- No decimal digit of any script is a blank. -/
theorem isBlank_of_isDecimal {c : Char} (hc : isDecimal c = true) : isBlank c = false := by
  have hnone : ∀ n ∈ blankCodes, isDecimal (Char.ofNat n) = false := by decide +kernel
  by_contra hblank
  have hcode := hnone c.toNat (toNat_mem_blankCodes (by simpa using hblank))
  rw [Char.ofNat_toNat, hc] at hcode
  exact Bool.false_ne_true hcode.symm

theorem isBlank_of_isDigit {c : Char} (hc : c.isDigit = true) : isBlank c = false :=
  isBlank_of_isDecimal (isDecimal_of_isDigit hc)

theorem isPadding_of_isDigit {c : Char} (hc : c.isDigit = true) : isPadding c = false := by
  rw [isPadding, isBlank_of_isDigit hc]
  rfl

/-! ## Numerals -/

section

variable {ds : List Char}

theorem digitValues?_of_isDigit (hne : ds ≠ []) (hds : ∀ c ∈ ds, c.isDigit = true) :
    digitValues? ds = some (ds.map fun c => c.toNat - 48) := by
  induction ds with
  | nil => exact absurd rfl hne
  | cons c ds ih =>
    obtain ⟨hc, hds⟩ := List.forall_mem_cons.1 hds
    cases ds with
    | nil => rw [digitValues?, decimalValue?_of_isDigit hc]; rfl
    | cons d ds =>
      have hd : d ≠ '_' := by
        rintro rfl
        exact absurd (hds '_' List.mem_cons_self) (by decide)
      have hrest := ih (List.cons_ne_nil d ds) hds
      rw [digitValues?.eq_4 _ _ (List.cons_ne_nil d ds) fun r h => hd (List.cons.inj h).1,
        decimalValue?_of_isDigit hc, hrest]
      rfl

theorem splitSign_of_isDigit (hds : ∀ c ∈ ds, c.isDigit = true) : splitSign ds = (false, ds) := by
  unfold splitSign
  split
  · exact absurd (hds '-' List.mem_cons_self) (by decide)
  · exact absurd (hds '+' List.mem_cons_self) (by decide)
  · rfl

end

theorem isDigit_of_mem_toDigits {n : Nat} : ∀ c ∈ Nat.toDigits 10 n, c.isDigit = true :=
  fun _ hc => Nat.isDigit_of_mem_toDigits (by decide) (by decide) hc

/-- Only zero is written with a leading zero. -/
theorem head?_toDigits_ne {n : Nat} (hn : 0 < n) : (Nat.toDigits 10 n).head? ≠ some '0' := by
  induction n using Nat.strongRecOn with
  | ind n ih =>
    by_cases hsmall : n < 10
    · have hdigit : ∀ m < 10, 0 < m → m.digitChar ≠ '0' := by decide
      rw [Nat.toDigits_of_lt_base hsmall]
      exact fun h => hdigit n hsmall hn (Option.some.inj h)
    · have hfront := ih (n / 10) (by omega) (by omega)
      obtain ⟨d, ds, hd⟩ := List.exists_cons_of_ne_nil
        (Nat.toDigits_ne_nil (b := 10) (n := n / 10))
      rw [Nat.toDigits_of_base_le (by decide) (by omega), hd]
      rw [hd] at hfront
      exact hfront

theorem ofAsciiDigits_toDigits (n : Nat) : ofAsciiDigits (Nat.toDigits 10 n) = n := by
  rw [ofAsciiDigits, ofDigitValues, List.foldl_map]
  exact Nat.ofDigitChars_toDigits (by decide) (by decide)

theorem ofAsciiDigits_concat (ds : List Char) (c : Char) :
    ofAsciiDigits (ds ++ [c]) = 10 * ofAsciiDigits ds + (c.toNat - 48) := by
  simp [ofAsciiDigits, ofDigitValues]

theorem digitChar_of_isDigit {c : Char} (hc : c.isDigit = true) : (c.toNat - 48).digitChar = c := by
  obtain ⟨hlow, hhigh⟩ := toNat_of_isDigit hc
  apply Char.toNat_inj.1
  rw [Nat.toNat_digitChar_of_lt_ten (by omega)]
  omega

/-- Digits without a leading zero are those of the number that they denote. -/
theorem toDigits_ofAsciiDigits {ds : List Char} (hne : ds ≠ [])
    (hds : ∀ c ∈ ds, c.isDigit = true) (hzero : ds.head? = some '0' → ds = ['0']) :
    Nat.toDigits 10 (ofAsciiDigits ds) = ds := by
  induction ds using List.reverseRecOn with
  | nil => exact absurd rfl hne
  | append_singleton ds c ih =>
    have hc : c.isDigit = true := hds c (List.mem_append_right ds List.mem_cons_self)
    have hlt : c.toNat - 48 < 10 := by
      have hrange := toNat_of_isDigit hc
      omega
    have hlast : Nat.toDigits 10 (c.toNat - 48) = [c] := by
      rw [Nat.toDigits_of_lt_base hlt, digitChar_of_isDigit hc]
    rw [ofAsciiDigits_concat]
    by_cases hfront : ds = []
    · simpa [hfront, ofAsciiDigits, ofDigitValues] using hlast
    · have hhead : ds.head? ≠ some '0' := by
        intro hhead
        have hsingle := hzero (by rw [List.head?_append, hhead, Option.some_or])
        have hlength := congrArg List.length hsingle
        rw [List.length_append] at hlength
        exact hfront (List.length_eq_zero_iff.1 (by simpa using hlength))
      have hdigits := ih hfront (fun d hd => hds d (List.mem_append_left _ hd))
        fun h => absurd h hhead
      have hpos : 0 < ofAsciiDigits ds := by
        rw [Nat.pos_iff_ne_zero]
        intro hvalue
        rw [hvalue] at hdigits
        exact hhead (by rw [← hdigits]; rfl)
      rw [← Nat.toDigits_append_toDigits (by decide) hpos hlt, hdigits, hlast]

/-- A number is read back from its digits, if there are not too many. -/
theorem readInt?_toDigits (n : Nat) :
    readInt? (Nat.toDigits 10 n) = if n < 10 ^ maxDigits then some (n : Int) else none := by
  have hdigits := isDigit_of_mem_toDigits (n := n)
  have htrim : trim isPadding (Nat.toDigits 10 n) = Nat.toDigits 10 n :=
    trim_eq_self_of_forall fun c hc => isPadding_of_isDigit (hdigits c hc)
  have hvalues := digitValues?_of_isDigit Nat.toDigits_ne_nil hdigits
  have hlength : (Nat.toDigits 10 n).length ≤ maxDigits ↔ n < 10 ^ maxDigits :=
    Nat.length_toDigits_le_iff (by decide) (by decide)
  have hvalue := ofAsciiDigits_toDigits n
  rw [ofAsciiDigits] at hvalue
  rw [readInt?, htrim, splitSign_of_isDigit hdigits]
  dsimp only
  rw [hvalues, Option.bind_eq_bind, Option.bind_some, List.length_map, hvalue]
  by_cases hn : n < 10 ^ maxDigits
  · have hguard : (guard ((Nat.toDigits 10 n).length ≤ maxDigits) : Option Unit) = some () :=
      if_pos (hlength.2 hn)
    rw [if_pos hn, hguard]
    rfl
  · have hguard : (guard ((Nat.toDigits 10 n).length ≤ maxDigits) : Option Unit) = none :=
      if_neg (mt hlength.1 hn)
    rw [if_neg hn, hguard]
    rfl

end HostReport.Numeral
