import HostReport.Number.Binary64
import Mathlib.Algebra.Order.Group.Nat
import Mathlib.Tactic.Ring

/-!
# The range of doubles

A quotient becomes infinite when it is rounded exactly if it exceeds the largest double by half a
step or more.  Rounding takes place among the numbers with fifty-three binary digits, so everything
follows from how one quotient is rounded and from how many digits it has.
-/

namespace HostReport

/-! ## One quotient -/

theorem div_le_roundQuotient (n d : Nat) : n / d ≤ roundQuotient n d := by
  simp only [roundQuotient]
  split
  · exact Nat.le_refl _
  split
  · exact Nat.le_succ _
  split
  · exact Nat.le_refl _
  · exact Nat.le_succ _

theorem roundQuotient_le (n d : Nat) : roundQuotient n d ≤ n / d + 1 := by
  simp only [roundQuotient]
  split
  · exact Nat.le_succ _
  split
  · exact Nat.le_refl _
  split
  · exact Nat.le_succ _
  · exact Nat.le_refl _

/-- A quotient halfway below an even number is rounded up to it. -/
theorem roundQuotient_lt_iff {n d k : Nat} (hd : 0 < d) (hk : k % 2 = 0) (hpos : 0 < k) :
    roundQuotient n d < k ↔ 2 * n < (2 * k - 1) * d := by
  have hn : d * (n / d) + n % d = n := Nat.div_add_mod n d
  have hr : n % d < d := Nat.mod_lt n hd
  have hbound : (2 * k - 1) * d + d = 2 * (d * k) := by
    calc (2 * k - 1) * d + d
        = (2 * k - 1 + 1) * d := by rw [Nat.add_mul, Nat.one_mul]
      _ = 2 * k * d := by rw [Nat.sub_add_cancel (by omega)]
      _ = 2 * (d * k) := by rw [Nat.mul_assoc, Nat.mul_comm k d]
  rcases Nat.lt_trichotomy (n / d + 1) k with hlow | heven | hhigh
  · -- more than one below: rounding up does not reach `k`
    have hmul : d * (n / d + 1 + 1) ≤ d * k := Nat.mul_le_mul_left d hlow
    have hle := roundQuotient_le n d
    rw [Nat.mul_add, Nat.mul_add] at hmul
    omega
  · -- just below: the remainder decides, and `k - 1` is odd
    have hodd : ¬(n / d) % 2 = 0 := by omega
    have hmul : d * k = d * (n / d) + d := by rw [← heven, Nat.mul_add, Nat.mul_one]
    simp only [roundQuotient, if_neg hodd]
    split
    · omega
    split
    · omega
    · omega
  · have hmul : d * k ≤ d * (n / d) := Nat.mul_le_mul_left d (by omega)
    have hge := div_le_roundQuotient n d
    omega

/-! ## Numbers of fifty-three digits -/

theorem unitStep_eq (units : Nat) : unitStep units = 2 ^ (units.log2 - 52) := rfl

theorem unitStep_pos (units : Nat) : 0 < unitStep units := Nat.two_pow_pos _

/-- A number of at most fifty-three digits, moved to the left, is a multiple of its own step. -/
theorem mod_unitStep_eq_zero {r : Nat} (hr : r ≤ 2 ^ 53) (k : Nat) :
    r * 2 ^ k % unitStep (r * 2 ^ k) = 0 := by
  apply Nat.mod_eq_zero_of_dvd
  rw [unitStep_eq]
  rcases Nat.lt_or_eq_of_le hr with hlt | rfl
  · -- the number has no more digits than its step allows for
    have hlog : (r * 2 ^ k).log2 < 53 + k := by
      by_cases hzero : r * 2 ^ k = 0
      · rw [hzero, Nat.log2_zero]
        omega
      · rw [Nat.log2_lt hzero, Nat.pow_add]
        exact Nat.mul_lt_mul_of_pos_right hlt (Nat.two_pow_pos k)
    exact Nat.dvd_trans (Nat.pow_dvd_pow 2 (by omega)) (Nat.dvd_mul_left (2 ^ k) r)
  · -- a power of two is a multiple of every smaller one
    rw [← Nat.pow_add, Nat.log2_two_pow]
    exact Nat.pow_dvd_pow 2 (Nat.sub_le (53 + k) 52)

/-- The quotient that is rounded has at most fifty-three digits. -/
theorem div_unitStep_lt (q : Nat) : q / unitStep q < 2 ^ 53 := by
  rw [Nat.div_lt_iff_lt_mul (unitStep_pos q), unitStep_eq, ← Nat.pow_add]
  have hlog : q < 2 ^ (q.log2 + 1) := Nat.lt_log2_self
  exact hlog.trans_le (Nat.pow_le_pow_right (by decide) (by omega))

theorem unitsPerOne_pos : 0 < unitsPerOne := by
  unfold unitsPerOne
  generalize 1074 = e
  exact Nat.two_pow_pos e

namespace Binary64

theorem roundUnits_eq (n d : Nat) :
    roundUnits n d = roundQuotient n (d * unitStep (n / d)) * unitStep (n / d) := rfl

theorem roundQuotient_step_le (n d : Nat) : roundQuotient n (d * unitStep (n / d)) ≤ 2 ^ 53 := by
  have hle := roundQuotient_le n (d * unitStep (n / d))
  have hlt := div_unitStep_lt (n / d)
  rw [Nat.div_div_eq_div_mul] at hlt
  omega

/-- What is rounded is a double unless it has too many units. -/
theorem isDouble_roundUnits_iff (n d : Nat) :
    IsDouble (roundUnits n d) ↔ roundUnits n d < Nat.pow 2 2098 := by
  have hstep : roundUnits n d % unitStep (roundUnits n d) = 0 := by
    rw [roundUnits_eq, unitStep_eq (n / d)]
    exact mod_unitStep_eq_zero (roundQuotient_step_le n d) _
  exact and_iff_left hstep

/-- Rounding does not go beyond the next power of two. -/
theorem roundUnits_le (n d : Nat) : roundUnits n d ≤ 2 ^ ((n / d).log2 + 1) := by
  rw [roundUnits_eq]
  by_cases hlog : 52 ≤ (n / d).log2
  · have hpow : 2 ^ 53 * unitStep (n / d) = 2 ^ ((n / d).log2 + 1) := by
      rw [unitStep_eq, ← Nat.pow_add, show 53 + ((n / d).log2 - 52) = (n / d).log2 + 1 by omega]
    rw [← hpow]
    exact Nat.mul_le_mul_right _ (roundQuotient_step_le n d)
  · have hstep : unitStep (n / d) = 1 := by
      rw [unitStep_eq, show (n / d).log2 - 52 = 0 by omega, Nat.pow_zero]
    have hlt : n / d < 2 ^ ((n / d).log2 + 1) := Nat.lt_log2_self
    rw [hstep, Nat.mul_one, Nat.mul_one]
    exact (roundQuotient_le n d).trans hlt

/-- Rounding does not go below the power of two that a number of many digits begins with. -/
theorem le_roundUnits {n d : Nat} (hlog : 52 ≤ (n / d).log2) :
    2 ^ (n / d).log2 ≤ roundUnits n d := by
  have hpow : 2 ^ 52 * unitStep (n / d) = 2 ^ (n / d).log2 := by
    rw [unitStep_eq, ← Nat.pow_add, show 52 + ((n / d).log2 - 52) = (n / d).log2 by omega]
  have hne : n / d ≠ 0 := by
    intro hzero
    rw [hzero, Nat.log2_zero] at hlog
    omega
  have hquotient : 2 ^ 52 ≤ n / d / unitStep (n / d) := by
    rw [Nat.le_div_iff_mul_le (unitStep_pos (n / d)), hpow]
    exact Nat.log2_self_le hne
  rw [Nat.div_div_eq_div_mul] at hquotient
  rw [roundUnits_eq, ← hpow]
  exact Nat.mul_le_mul_right _ (hquotient.trans (div_le_roundQuotient n _))

/-- Rounding stays below a power of two exactly up to half a step below it. -/
theorem roundUnits_lt_iff {n d : Nat} (hd : 0 < d) (e : Nat) :
    roundUnits n d < 2 ^ 53 * 2 ^ e ↔ 2 * n < (2 ^ 54 - 1) * (d * 2 ^ e) := by
  have hupper : n < d * (n / d + 1) := Nat.lt_mul_div_succ n hd
  have hlower : d * (n / d) ≤ n := Nat.mul_div_le n d
  have hpos : 0 < d * 2 ^ e := Nat.mul_pos hd (Nat.two_pow_pos e)
  rcases Nat.lt_trichotomy (n / d).log2 (e + 52) with hless | hequal | hmore
  · have hpow : 2 ^ ((n / d).log2 + 1) ≤ 2 ^ 52 * 2 ^ e := by
      rw [← Nat.pow_add]
      exact Nat.pow_le_pow_right (by decide) (by omega)
    have hround : roundUnits n d < 2 ^ 53 * 2 ^ e :=
      (roundUnits_le n d).trans_lt
        (hpow.trans_lt (Nat.mul_lt_mul_of_pos_right (by decide) (Nat.two_pow_pos e)))
    have hquotient : n / d + 1 ≤ 2 ^ 52 * 2 ^ e := Nat.lt_log2_self.trans_le hpow
    have hmul : d * (n / d + 1) ≤ 2 ^ 52 * (d * 2 ^ e) := by
      rw [← Nat.mul_assoc, Nat.mul_comm (2 ^ 52) d, Nat.mul_assoc]
      exact Nat.mul_le_mul_left d hquotient
    exact iff_of_true hround (by omega)
  · have hstep : unitStep (n / d) = 2 ^ e := by
      rw [unitStep_eq, hequal, Nat.add_sub_cancel]
    rw [roundUnits_eq, hstep, Nat.mul_lt_mul_right (Nat.two_pow_pos e),
      roundQuotient_lt_iff hpos (by decide) (by decide), show 2 * 2 ^ 53 - 1 = 2 ^ 54 - 1 from rfl]
  · have hpow : 2 ^ 53 * 2 ^ e ≤ 2 ^ (n / d).log2 := by
      rw [← Nat.pow_add]
      exact Nat.pow_le_pow_right (by decide) (by omega)
    have hround : 2 ^ 53 * 2 ^ e ≤ roundUnits n d := hpow.trans (le_roundUnits (by omega))
    have hne : n / d ≠ 0 := by
      intro hzero
      rw [hzero, Nat.log2_zero] at hmore
      omega
    have hmul : 2 ^ 53 * (d * 2 ^ e) ≤ d * (n / d) := by
      rw [← Nat.mul_assoc, Nat.mul_comm (2 ^ 53) d, Nat.mul_assoc]
      exact Nat.mul_le_mul_left d (hpow.trans (Nat.log2_self_le hne))
    exact iff_of_false (Nat.not_lt.2 hround) (by omega)

/-- The same for a number that is moved to the left before it is divided. -/
theorem roundUnits_mul_lt_iff {n d a b e : Nat} (hd : 0 < d) (he : e = 53 + (a + b + 1)) :
    roundUnits (n * Nat.pow 2 b) d < Nat.pow 2 e ↔
      n < (Nat.pow 2 54 - 1) * Nat.pow 2 a * d := by
  have hright : (2 ^ 54 - 1) * (d * 2 ^ (a + b + 1)) = 2 * ((2 ^ 54 - 1) * 2 ^ a * d * 2 ^ b) := by
    rw [Nat.pow_succ, Nat.pow_add]
    generalize 2 ^ 54 - 1 = c
    ring
  rw [he, Nat.pow_eq, Nat.pow_eq, Nat.pow_eq, Nat.pow_eq, Nat.pow_add 2 53, roundUnits_lt_iff hd,
    hright, Nat.mul_lt_mul_left (by decide), Nat.mul_lt_mul_right (Nat.two_pow_pos b)]

/-- Where the numbers begin that no double is near: `2 ^ 1024 - 2 ^ 970`, half a step above the
largest double. -/
def beyond : Nat := (Nat.pow 2 54 - 1) * Nat.pow 2 970

/-- A quotient is a finite double exactly if it lies below this number. -/
theorem isFinite_ofRatio_iff (negative : Bool) (n : Nat) {d : Nat} (hd : 0 < d) :
    (ofRatio negative n d).isFinite = true ↔ n < beyond * d := by
  have hdouble : (ofRatio negative n d).isFinite = true ↔
      IsDouble (roundUnits (n * unitsPerOne) d) := by
    rw [ofRatio, ofUnits]
    split
    · exact iff_of_true rfl ‹_›
    · exact iff_of_false (fun h => nomatch h) ‹_›
  rw [hdouble, isDouble_roundUnits_iff]
  exact roundUnits_mul_lt_iff hd rfl

/-- A quotient of integers has a double exactly if it lies between these bounds. -/
theorem exists_ofQuotient?_iff (n : Int) {d : Nat} (hd : 0 < d) :
    (∃ x, ofQuotient? n d = some x) ↔ n.natAbs < beyond * d := by
  rw [← isFinite_ofRatio_iff (n < 0) n.natAbs hd, ofQuotient?]
  by_cases hfinite : (ofRatio (n < 0) n.natAbs d).isFinite = true
  · simp only [if_pos hfinite]
    exact iff_of_true ⟨_, rfl⟩ hfinite
  · simp only [if_neg hfinite]
    exact iff_of_false (fun ⟨_, hx⟩ => nomatch hx) hfinite

end Binary64

end HostReport
