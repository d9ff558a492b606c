import HostReport.Proofs.Number.Grammar
import HostReport.Proofs.Number.Range
import Mathlib.Algebra.Order.Field.Rat
import Mathlib.Algebra.Order.Field.Power
import Mathlib.Data.Nat.Cast.Order.Ring
import Mathlib.Tactic.NormNum

/-!
# Durations

A double can be waited for if it is finite and more than zero.  Of a decimal this is so exactly if
its value lies above half the smallest double and below the number that no double is near any more.
-/

namespace HostReport

/-! ## Rounding to zero -/

theorem roundQuotient_pos_iff {n d : Nat} (hd : 0 < d) : 0 < roundQuotient n d ↔ d < 2 * n := by
  have hn : d * (n / d) + n % d = n := Nat.div_add_mod n d
  have hr : n % d < d := Nat.mod_lt n hd
  rcases Nat.eq_zero_or_pos (n / d) with hzero | hpos
  · simp only [roundQuotient, hzero, Nat.zero_mod, if_true]
    rw [hzero, Nat.mul_zero, Nat.zero_add] at hn
    split
    · omega
    split
    · omega
    · omega
  · have hge := div_le_roundQuotient n d
    have hmul : d * 1 ≤ d * (n / d) := Nat.mul_le_mul_left d hpos
    omega

namespace Binary64

/-- A quotient is rounded to at least one unit exactly if it is more than a half. -/
theorem roundUnits_pos_iff {n d : Nat} (hd : 0 < d) : 0 < roundUnits n d ↔ d < 2 * n := by
  have hstep := unitStep_pos (n / d)
  rw [roundUnits_eq, Nat.mul_pos_iff_of_pos_right hstep,
    roundQuotient_pos_iff (Nat.mul_pos hd hstep)]
  rcases Nat.eq_zero_or_pos (n / d) with hzero | hpos
  · rw [hzero, show unitStep 0 = 1 by decide, Nat.mul_one]
  · have hlow : unitStep (n / d) ≤ n / d := by
      rw [unitStep_eq]
      exact (Nat.pow_le_pow_right (by decide) (Nat.sub_le _ 52)).trans
        (Nat.log2_self_le (Nat.ne_of_gt hpos))
    have hmul : d * unitStep (n / d) ≤ d * (n / d) := Nat.mul_le_mul_left d hlow
    have hone : d * 1 ≤ d * (n / d) := Nat.mul_le_mul_left d hpos
    have hn : d * (n / d) ≤ n := Nat.mul_div_le n d
    exact iff_of_true (by omega) (by omega)

/-! ## Durations -/

/-- Whether the number is that of seconds that can be waited for. -/
def IsDuration (x : Binary64) : Prop := x.isFinite = true ∧ lt 0 x = true

instance (x : Binary64) : Decidable x.IsDuration := inferInstanceAs (Decidable (_ ∧ _))

theorem zero_eq : (0 : Binary64) = .finite false 0 (by decide +kernel) := by decide +kernel

theorem isDuration_finite_iff (negative : Bool) (u : Nat) (hu : IsDouble u) :
    (finite negative u hu).IsDuration ↔ negative = false ∧ 0 < u := by
  rw [IsDuration, zero_eq]
  cases negative with
  | false => simp [isFinite, lt, signedUnits]
  | true => simp [isFinite, lt, signedUnits]

theorem not_isDuration_infinite (negative : Bool) : ¬(infinite negative).IsDuration :=
  fun h => nomatch h.1

theorem isDuration_ofUnits_iff (negative : Bool) (u : Nat) :
    (ofUnits negative u).IsDuration ↔
      negative = false ∧ 0 < u ∧ (ofUnits negative u).isFinite = true := by
  rw [ofUnits]
  split
  · rw [isDuration_finite_iff]
    simp [isFinite]
  · exact iff_of_false (not_isDuration_infinite negative) fun h => Bool.false_ne_true h.2.2

theorem isDuration_ofRatio_iff (negative : Bool) (n : Nat) {d : Nat} (hd : 0 < d) :
    (ofRatio negative n d).IsDuration ↔
      negative = false ∧ d < 2 * (n * unitsPerOne) ∧ n < beyond * d := by
  rw [← isFinite_ofRatio_iff negative n hd, ofRatio, isDuration_ofUnits_iff, roundUnits_pos_iff hd]

/-! ## Decimals -/

/-- Half the smallest positive double, `2 ^ -1075`: no more than this is rounded to zero. -/
def vanishing : ℚ := 1 / (2 * unitsPerOne)

theorem two_mul_unitsPerOne_pos : (0 : ℚ) < 2 * unitsPerOne :=
  mul_pos two_pos (Nat.cast_pos.2 unitsPerOne_pos)

theorem vanishing_pos : 0 < vanishing := one_div_pos.2 two_mul_unitsPerOne_pos

/-- A quotient is a duration exactly if it lies between these bounds. -/
theorem isDuration_ofRatio_iff_div (negative : Bool) (n : Nat) {d : Nat} (hd : 0 < d) :
    (ofRatio negative n d).IsDuration ↔
      negative = false ∧ vanishing < n / d ∧ (n : ℚ) / d < beyond := by
  have hd' : (0 : ℚ) < d := Nat.cast_pos.2 hd
  have hlow : vanishing < (n : ℚ) / d ↔ d < 2 * (n * unitsPerOne) := by
    rw [vanishing, div_lt_div_iff₀ two_mul_unitsPerOne_pos hd', one_mul, mul_left_comm]
    exact_mod_cast Iff.rfl
  have hhigh : (n : ℚ) / d < beyond ↔ n < beyond * d := by
    rw [div_lt_iff₀ hd']
    exact_mod_cast Iff.rfl
  rw [isDuration_ofRatio_iff negative n hd, hlow, hhigh]

/-- The value of a decimal lies between the powers of ten that its number of digits tells. -/
theorem decimal_bounds {mantissa : Nat} (hpos : 0 < mantissa) (exponent : Int) :
    (10 : ℚ) ^ (exponent + (Nat.toDigits 10 mantissa).length - 1) ≤ mantissa * 10 ^ exponent ∧
      (mantissa : ℚ) * 10 ^ exponent < 10 ^ (exponent + (Nat.toDigits 10 mantissa).length) := by
  have hten : (0 : ℚ) < 10 ^ exponent := zpow_pos (by norm_num) exponent
  have hlength (k : Nat) (hk : 0 < k) :
      (Nat.toDigits 10 mantissa).length ≤ k ↔ mantissa < 10 ^ k :=
    Nat.length_toDigits_le_iff (by decide) hk
  obtain ⟨k, hk⟩ : ∃ k, (Nat.toDigits 10 mantissa).length = k + 1 :=
    Nat.exists_eq_succ_of_ne_zero (List.length_pos_iff.2 Nat.toDigits_ne_nil).ne'
  have hhigh : mantissa < 10 ^ (k + 1) := (hlength (k + 1) k.succ_pos).1 hk.le
  have hlow : 10 ^ k ≤ mantissa := by
    rcases Nat.eq_zero_or_pos k with rfl | hkpos
    · exact hpos
    · by_contra hless
      have := (hlength k hkpos).2 (Nat.lt_of_not_le hless)
      omega
  rw [hk, Nat.cast_add_one, ← add_assoc, add_sub_cancel_right, add_assoc]
  constructor
  · rw [zpow_add₀ (by norm_num), mul_comm, zpow_natCast]
    exact mul_le_mul_of_nonneg_right (by exact_mod_cast hlow) hten.le
  · rw [← Nat.cast_add_one, zpow_add₀ (by norm_num), mul_comm, zpow_natCast]
    exact mul_lt_mul_of_pos_left (by exact_mod_cast hhigh) hten

theorem beyond_le {k : Nat} (hk : beyond ≤ Nat.pow 10 k) : (beyond : ℚ) ≤ 10 ^ (k : ℤ) := by
  rw [zpow_natCast]
  exact_mod_cast hk

theorem le_vanishing {k : Nat} (hk : 2 * unitsPerOne ≤ Nat.pow 10 k) :
    (10 : ℚ) ^ (-(k : ℤ)) ≤ vanishing := by
  rw [zpow_neg, zpow_natCast, vanishing, one_div]
  refine inv_anti₀ two_mul_unitsPerOne_pos ?_
  exact_mod_cast hk

/-- A decimal is a duration exactly if its value lies between these bounds. -/
theorem isDuration_ofDecimal_iff (negative : Bool) (mantissa : Nat) (exponent : Int) :
    (ofDecimal negative mantissa exponent).IsDuration ↔
      negative = false ∧ vanishing < mantissa * 10 ^ exponent ∧
        (mantissa : ℚ) * 10 ^ exponent < beyond := by
  rw [ofDecimal]
  split
  · next hzero =>
    rw [isDuration_ofRatio_iff negative 0 Nat.one_pos, hzero]
    refine iff_of_false (fun h => ?_) fun h => ?_
    · rw [Nat.zero_mul, Nat.mul_zero] at h
      exact Nat.not_lt_zero _ h.2.1
    · rw [Nat.cast_zero, zero_mul] at h
      exact h.2.1.not_ge vanishing_pos.le
  next hne =>
  obtain ⟨hlow, hhigh⟩ := decimal_bounds (Nat.pos_of_ne_zero hne) exponent
  dsimp only
  split
  · next hlarge =>
    have hten : (10 : ℚ) ^ ((400 : ℕ) : ℤ) ≤ mantissa * 10 ^ exponent :=
      (zpow_le_zpow_right₀ (by norm_num) (by omega)).trans hlow
    exact iff_of_false (not_isDuration_infinite negative)
      fun h => h.2.2.not_ge ((beyond_le (by decide +kernel)).trans hten)
  split
  · next hsmall =>
    have hten : (mantissa : ℚ) * 10 ^ exponent < 10 ^ (-((400 : ℕ) : ℤ)) :=
      hhigh.trans_le (zpow_le_zpow_right₀ (by norm_num) (by omega))
    rw [isDuration_ofRatio_iff negative 0 Nat.one_pos]
    refine iff_of_false (fun h => ?_)
      fun h => h.2.1.not_ge (hten.le.trans (le_vanishing (by decide +kernel)))
    rw [Nat.zero_mul, Nat.mul_zero] at h
    exact Nat.not_lt_zero _ h.2.1
  split
  · next hsign =>
    obtain ⟨k, rfl⟩ := Int.eq_ofNat_of_zero_le hsign
    have hvalue : ((mantissa * Nat.pow 10 k : ℕ) : ℚ) / (1 : ℕ) = mantissa * 10 ^ (k : ℤ) := by
      rw [Nat.cast_one, div_one, zpow_natCast, Nat.pow_eq, Nat.cast_mul, Nat.cast_pow]
      rfl
    rw [isDuration_ofRatio_iff_div negative _ Nat.one_pos, Int.toNat_natCast, hvalue]
  · next hsign =>
    obtain ⟨k, rfl⟩ : ∃ k : ℕ, exponent = -k := ⟨(-exponent).toNat, by omega⟩
    have hvalue : (mantissa : ℚ) / (Nat.pow 10 k : ℕ) = mantissa * 10 ^ (-(k : ℤ)) := by
      rw [zpow_neg, zpow_natCast, Nat.pow_eq, Nat.cast_pow, div_eq_mul_inv]
      rfl
    have hpow : 0 < Nat.pow 10 k := Nat.pow_pos (by decide)
    rw [neg_neg, Int.toNat_natCast, isDuration_ofRatio_iff_div negative _ hpow, hvalue]

end Binary64

namespace Numeral.Meaning

/-- What is meant can be waited for: a decimal without a minus, above half the smallest double and
below where the doubles end. -/
def IsDuration : Meaning → Prop
  | decimal false mantissa exponent =>
    Binary64.vanishing < mantissa * 10 ^ exponent ∧
      (mantissa : ℚ) * 10 ^ exponent < Binary64.beyond
  | _ => False

theorem isDuration_toDouble_iff (m : Meaning) : m.toDouble.IsDuration ↔ m.IsDuration := by
  cases m with
  | nan => exact iff_of_false (fun h => nomatch h.1) id
  | infinite negative => exact iff_of_false (Binary64.not_isDuration_infinite negative) id
  | decimal negative mantissa exponent =>
    rw [toDouble, Binary64.isDuration_ofDecimal_iff]
    cases negative with
    | false => exact and_iff_right rfl
    | true => exact iff_of_false (fun h => nomatch h.1) id

end Numeral.Meaning

end HostReport
