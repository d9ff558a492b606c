import HostReport.Text.Digit
import HostReport.Text.Letter
import HostReport.Proofs.Text.Run
import Mathlib.Algebra.Order.Group.Nat

/-!
# Hexadecimal digits

The digits of a number are lower-case letters and decimal digits, they are read back as the number,
and the numbers whose digits stand at the front of others are the quotients by powers of sixteen.
-/

namespace HostReport.Text

/-- A lower-case hexadecimal digit or a colon: a character that lower-casing leaves alone. -/
def isLowHexOrColon (c : Char) : Bool :=
  let n := c.toNat
  (48 ≤ n && n ≤ 58) || (97 ≤ n && n ≤ 102)

/-- The digits of a number fill a width of one. -/
theorem hexDigits_one (n : Nat) : hexDigits 1 n = Nat.toDigits 16 n := by
  have hne : Nat.toDigits 16 n ≠ [] := Nat.toDigits_ne_nil
  have hlength : 1 - (Nat.toDigits 16 n).length = 0 := by
    have hpos := List.length_pos_iff.2 hne
    omega
  rw [hexDigits, hlength]
  rfl

/-! ## One digit -/

theorem hexValue?_digitChar : ∀ {n : Nat}, n < 16 → hexValue? n.digitChar = some n := by
  decide

theorem isLowHexOrColon_digitChar : ∀ {n : Nat}, n < 16 → isLowHexOrColon n.digitChar = true := by
  decide

theorem digitChar_ne_colon : ∀ {n : Nat}, n < 16 → n.digitChar ≠ ':' := by
  decide

/-! ## All digits of a number -/

/-- What each of the sixteen digits is, the digits of every number are. -/
theorem forall_mem_toDigits {p : Char → Prop} (hp : ∀ {n : Nat}, n < 16 → p n.digitChar) (n : Nat) :
    ∀ c ∈ Nat.toDigits 16 n, p c := by
  induction n using Nat.strongRecOn with
  | ind n ih =>
    by_cases hn : n < 16
    · rw [Nat.toDigits_of_lt_base hn]
      simpa using hp hn
    · have hlast : n % 16 < 16 := Nat.mod_lt n (by decide)
      rw [Nat.toDigits_of_base_le (by decide) (by omega)]
      intro c hc
      rcases List.mem_append.1 hc with hfront | hback
      · exact ih (n / 16) (by omega) c hfront
      · rw [List.mem_singleton.1 hback]
        exact hp hlast

theorem colon_not_mem_toDigits (n : Nat) : ':' ∉ Nat.toDigits 16 n := by
  intro h
  exact forall_mem_toDigits (p := (· ≠ ':')) digitChar_ne_colon n ':' h rfl

/-- A number is read back from its digits. -/
theorem foldlM_hexValue?_toDigits (n : Nat) :
    (Nat.toDigits 16 n).foldlM (fun m c => (hexValue? c).map (m * 16 + ·)) 0 = some n := by
  induction n using Nat.strongRecOn with
  | ind n ih =>
    by_cases hn : n < 16
    · simp [Nat.toDigits_of_lt_base hn, hexValue?_digitChar hn]
    · have hlast : hexValue? (n % 16).digitChar = some (n % 16) :=
        hexValue?_digitChar (Nat.mod_lt n (by decide))
      have hn' : n / 16 * 16 + n % 16 = n := Nat.div_add_mod' n 16
      rw [Nat.toDigits_of_base_le (by decide) (by omega), List.foldlM_append,
        ih (n / 16) (by omega)]
      simp [hlast, hn']

theorem toDigits_injective {m n : Nat} (h : Nat.toDigits 16 m = Nat.toDigits 16 n) : m = n := by
  have hm := foldlM_hexValue?_toDigits m
  rw [h, foldlM_hexValue?_toDigits n] at hm
  exact (Option.some.inj hm).symm

/-- The digits of `m` stand at the front of the digits of `n` exactly if some last digits of `n`
dropped leave `m`. -/
theorem toDigits_prefix_iff {m : Nat} (hm : 0 < m) (n : Nat) :
    Nat.toDigits 16 m <+: Nat.toDigits 16 n ↔ ∃ k, n / 16 ^ k = m := by
  induction n using Nat.strongRecOn with
  | ind n ih =>
    -- Dropping no digit and dropping one more than the recursion drops.
    have hsplit : (∃ k, n / 16 ^ k = m) ↔ n = m ∨ ∃ k, n / 16 / 16 ^ k = m := by
      constructor
      · rintro ⟨_ | k, hk⟩
        · exact .inl (by simpa using hk)
        · exact .inr ⟨k, by rw [Nat.div_div_eq_div_mul, ← Nat.pow_succ']; exact hk⟩
      · rintro (rfl | ⟨k, hk⟩)
        · exact ⟨0, by simp⟩
        · exact ⟨k + 1, by rw [Nat.pow_succ', ← Nat.div_div_eq_div_mul]; exact hk⟩
    have hself : Nat.toDigits 16 m = Nat.toDigits 16 n ↔ n = m :=
      ⟨fun h => (toDigits_injective h).symm, fun h => by rw [h]⟩
    by_cases hn : n < 16
    · have hnone : ¬∃ k, n / 16 / 16 ^ k = m := by
        rintro ⟨k, hk⟩
        have hzero : n / 16 = 0 := by omega
        rw [hzero, Nat.zero_div] at hk
        omega
      have hempty : ¬Nat.toDigits 16 m <+: [] := fun h =>
        Nat.toDigits_ne_nil (List.prefix_nil.1 h)
      rw [hsplit, or_iff_left hnone, ← hself, Nat.toDigits_of_lt_base hn,
        ← List.nil_append [n.digitChar], List.prefix_concat_iff, or_iff_left hempty]
    · have hlow : Nat.toDigits 16 n = Nat.toDigits 16 (n / 16) ++ [(n % 16).digitChar] :=
        Nat.toDigits_of_base_le (by decide) (by omega)
      rw [hsplit, ← hself, ← ih (n / 16) (by omega), hlow, List.prefix_concat_iff]

/-! ## Lower-casing -/

/-- Only the ASCII capitals differ from their lower-case forms. -/
theorem toLower_eq_self {c : Char} (hc : c.toNat < 65 ∨ 90 < c.toNat) : c.toLower = c := by
  refine dif_neg ?_
  rintro ⟨hA, hZ⟩
  have hA : 65 ≤ c.toNat := hA
  have hZ : c.toNat ≤ 90 := hZ
  omega

/-- The digits and the colon are their own lower-case forms, wherever they stand. -/
theorem lowerAt_of_isLowHexOrColon {c : Char} (hc : isLowHexOrColon c = true)
    (before after : List Char) : lowerAt before c after = [c] := by
  have hrange : 48 ≤ c.toNat ∧ c.toNat ≤ 58 ∨ 97 ≤ c.toNat ∧ c.toNat ≤ 102 := by
    simpa [isLowHexOrColon] using hc
  have hlower : c.toLower = c := toLower_eq_self (by omega)
  have hsigma : c.toNat ≠ 0x3A3 := by omega
  have hdotted : c.toNat ≠ 0x130 := by omega
  have hascii : c.toNat < 128 := by omega
  rw [lowerAt, if_neg hsigma, if_neg hdotted, lowerChar]
  simp [hascii, hlower]

theorem lowerFrom_eq_self {s : List Char} (hs : ∀ c ∈ s, isLowHexOrColon c = true)
    (before : List Char) : lowerFrom before s = s := by
  induction s generalizing before with
  | nil => rfl
  | cons c s ih =>
    have hc : isLowHexOrColon c = true := hs c List.mem_cons_self
    have hrest : lowerFrom (c :: before) s = s :=
      ih (fun d hd => hs d (List.mem_cons_of_mem c hd)) (c :: before)
    rw [lowerFrom, lowerAt_of_isLowHexOrColon hc, hrest]
    rfl

/-- Hexadecimal digits in lower case and colons are their own lower-case form. -/
theorem lower_eq_self {s : List Char} (hs : ∀ c ∈ s, isLowHexOrColon c = true) : lower s = s :=
  lowerFrom_eq_self hs []

end HostReport.Text
