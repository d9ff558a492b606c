import HostReport.Proofs.Number.Duration
import HostReport.Proofs.Number.Nearest

/-!
# What is left of a timeout

A wait reads the clock when it begins, adds the timeout, and takes the clock away again each time it
asks how long it may still wait.  Both steps are rounded, so what is left can be a little more than
the timeout.  No double is nearer to a sum than the rounded sum, and the clock itself is a double:
so as long as the clock does not run back, no more than twice the timeout is left.
-/

namespace HostReport.Binary64

/-! ## No double is nearer -/

/-- A double below a number lies below the multiple of the step of this number. -/
theorem le_div_unitStep_mul {u n : Nat} (hu : IsDouble u) (hun : u ≤ n) :
    u ≤ n / unitStep n * unitStep n := by
  by_cases hzero : u = 0
  · rw [hzero]
    exact Nat.zero_le _
  have hn : n ≠ 0 := by omega
  -- a multiple of the step between the two is enough
  suffices ∃ k, u ≤ k * unitStep n ∧ k * unitStep n ≤ n by
    obtain ⟨k, huk, hkn⟩ := this
    have hk : k ≤ n / unitStep n := (Nat.le_div_iff_mul_le (unitStep_pos n)).2 hkn
    exact huk.trans (Nat.mul_le_mul_right _ hk)
  rcases Nat.lt_or_ge u.log2 n.log2 with hlog | hlog
  · have hstep : unitStep n ∣ 2 ^ n.log2 := Nat.pow_dvd_pow 2 (Nat.sub_le _ _)
    refine ⟨2 ^ n.log2 / unitStep n, ?_⟩
    rw [Nat.div_mul_cancel hstep]
    exact ⟨((Nat.log2_lt hzero).1 hlog).le, Nat.log2_self_le hn⟩
  · have hstep : unitStep n ∣ u :=
      (Nat.pow_dvd_pow 2 (Nat.sub_le_sub_right hlog 52)).trans (Nat.dvd_of_mod_eq_zero hu.2)
    refine ⟨u / unitStep n, ?_⟩
    rw [Nat.div_mul_cancel hstep]
    exact ⟨Nat.le_refl u, hun⟩

/-- A double above a number lies above the next multiple of the step of this number. -/
theorem succ_div_unitStep_mul_le {u n : Nat} (hu : IsDouble u) (hnu : n < u) :
    (n / unitStep n + 1) * unitStep n ≤ u := by
  have hlog : n.log2 ≤ u.log2 := by
    by_cases hzero : n = 0
    · rw [hzero, Nat.log2_zero]
      exact Nat.zero_le _
    · exact (Nat.le_log2 (Nat.ne_zero_of_lt hnu)).2 ((Nat.log2_self_le hzero).trans hnu.le)
  obtain ⟨k, rfl⟩ : unitStep n ∣ u :=
    (Nat.pow_dvd_pow 2 (Nat.sub_le_sub_right hlog 52)).trans (Nat.dvd_of_mod_eq_zero hu.2)
  rw [Nat.mul_comm] at hnu ⊢
  exact Nat.mul_le_mul_left _ (Nat.div_lt_of_lt_mul (by rwa [Nat.mul_comm]))

theorem roundUnits_one_eq (n : Nat) :
    roundUnits n 1 = roundQuotient n (unitStep n) * unitStep n := by
  rw [roundUnits_eq, Nat.div_one, Nat.one_mul]

/-- What is rounded is one of the two multiples of the step that lie around it. -/
theorem roundUnits_one_mem (n : Nat) :
    roundUnits n 1 = n / unitStep n * unitStep n ∨
      roundUnits n 1 = (n / unitStep n + 1) * unitStep n := by
  rw [roundUnits_one_eq]
  have hlow := div_le_roundQuotient n (unitStep n)
  have hhigh := roundQuotient_le n (unitStep n)
  rcases Nat.eq_or_lt_of_le hlow with heq | hlt
  · exact .inl (by rw [← heq])
  · exact .inr (by rw [Nat.le_antisymm hhigh hlt])

theorem roundUnits_of_ge {u n : Nat} (hu : IsDouble u) (hun : u ≤ n) :
    u ≤ roundUnits n 1 ∧ roundUnits n 1 + u ≤ 2 * n := by
  have hbelow := le_div_unitStep_mul hu hun
  have hfloor : n / unitStep n * unitStep n ≤ n := Nat.div_mul_le_self n _
  have hnearest := (roundQuotient_nearest n (unitStep_pos n)).2
  rw [← roundUnits_one_eq] at hnearest
  have hround := roundUnits_one_mem n
  rw [Nat.add_one_mul] at hround
  generalize n / unitStep n * unitStep n = floor at hbelow hfloor hround
  omega

theorem roundUnits_of_le {u n : Nat} (hu : IsDouble u) (hnu : n ≤ u) :
    roundUnits n 1 ≤ u ∧ 2 * n ≤ roundUnits n 1 + u := by
  rcases Nat.eq_or_lt_of_le hnu with rfl | hlt
  · have hsame := roundUnits_of_isDouble hu Nat.one_pos
    rw [Nat.mul_one] at hsame
    omega
  have habove := succ_div_unitStep_mul_le hu hlt
  have hnearest := (roundQuotient_nearest n (unitStep_pos n)).1
  rw [← roundUnits_one_eq] at hnearest
  have hceiling : n < n / unitStep n * unitStep n + unitStep n :=
    Nat.lt_div_mul_add (unitStep_pos n)
  have hround := roundUnits_one_mem n
  rw [Nat.add_one_mul] at habove hround
  generalize n / unitStep n * unitStep n = floor at habove hceiling hround
  omega

/-! ## Sums with a sign -/

/-- The units of a sum, rounded. -/
def roundSum (n : Int) : Int := signedUnits (n < 0) (roundUnits n.natAbs 1)

theorem roundSum_neg (n : Int) : roundSum (-n) = -roundSum n := by
  have hzero : roundUnits 0 1 = 0 := by decide
  simp only [roundSum, signedUnits, Int.natAbs_neg, decide_eq_true_eq]
  rcases Int.lt_trichotomy n 0 with hn | rfl | hn
  · rw [if_neg (by omega), if_pos hn, Int.neg_neg]
  · simp [hzero]
  · rw [if_pos (by omega), if_neg (by omega)]

/-- A double that does not exceed a sum does not exceed the rounded sum, which is as near. -/
theorem roundSum_of_ge {s : Bool} {u : Nat} (hu : IsDouble u) {n : Int}
    (hun : signedUnits s u ≤ n) :
    signedUnits s u ≤ roundSum n ∧ roundSum n + signedUnits s u ≤ 2 * n := by
  have hnone : IsDouble 0 := by decide +kernel
  by_cases hn : n < 0
  · -- both are negative, and the double is the larger one without its sign
    have hs : s = true := by
      by_contra hs
      rw [signedUnits, if_neg hs] at hun
      omega
    rw [signedUnits, if_pos hs] at hun ⊢
    have hbounds := roundUnits_of_le hu (n := n.natAbs) (by omega)
    rw [roundSum, signedUnits, if_pos (decide_eq_true hn)]
    omega
  · have hpositive : roundSum n = roundUnits n.natAbs 1 := if_neg (by simpa using hn)
    rw [hpositive]
    cases s with
    | true =>
      have hnegative := signedUnits_true u
      have hbounds := roundUnits_of_ge hnone (Nat.zero_le n.natAbs)
      omega
    | false =>
      have hself := signedUnits_false u
      have hbounds := roundUnits_of_ge hu (n := n.natAbs) (by omega)
      omega

theorem roundSum_of_le {s : Bool} {u : Nat} (hu : IsDouble u) {n : Int}
    (hnu : n ≤ signedUnits s u) :
    roundSum n ≤ signedUnits s u ∧ 2 * n ≤ roundSum n + signedUnits s u := by
  have hneg := signedUnits_not s u
  have hbounds := roundSum_of_ge (s := !s) hu (n := -n) (by omega)
  rw [roundSum_neg, hneg] at hbounds
  omega

/-! ## Sums of doubles -/

section

variable (s t : Bool) {u v : Nat} (hu : IsDouble u) (hv : IsDouble v)

/-- A sum is the rounded sum, unless that is beyond the largest double. -/
theorem add_finite :
    (∃ (r : Bool) (w : Nat) (hw : IsDouble w),
        (finite s u hu + finite t v hv : Binary64) = finite r w hw ∧
          signedUnits r w = roundSum (signedUnits s u + signedUnits t v)) ∨
      ((finite s u hu + finite t v hv : Binary64) =
          infinite (signedUnits s u + signedUnits t v < 0) ∧
        Nat.pow 2 2098 ≤ roundUnits (signedUnits s u + signedUnits t v).natAbs 1) := by
  have hadd : (finite s u hu + finite t v hv : Binary64) =
      let sum := signedUnits s u + signedUnits t v
      if sum = 0 then ofUnits (s && t) 0 else ofUnits (sum < 0) (roundUnits sum.natAbs 1) := rfl
  rw [hadd]
  generalize signedUnits s u + signedUnits t v = sum
  dsimp only
  by_cases hsum : sum = 0
  · have hnone : IsDouble 0 := by decide +kernel
    rw [if_pos hsum, hsum, ofUnits, dif_pos hnone]
    refine .inl ⟨_, 0, hnone, rfl, ?_⟩
    cases s && t <;> decide
  · rw [if_neg hsum, ofUnits]
    by_cases hdouble : IsDouble (roundUnits sum.natAbs 1)
    · rw [dif_pos hdouble]
      exact .inl ⟨_, _, hdouble, rfl, rfl⟩
    · rw [dif_neg hdouble]
      rw [isDouble_roundUnits_iff] at hdouble
      exact .inr ⟨rfl, Nat.le_of_not_lt hdouble⟩

end

theorem not_lt_self (x : Binary64) : lt x x = false := by
  cases x with
  | nan => rfl
  | infinite r => exact Bool.and_not_self r
  | finite r w hw => exact decide_eq_false (Int.lt_irrefl _)

theorem lt_neg_infinite (x : Binary64) : lt x (infinite true) = false := by
  cases x with
  | nan => rfl
  | infinite r => exact Bool.and_false r
  | finite r w hw => rfl

theorem lt_nan (x : Binary64) : lt x nan = false := by
  cases x <;> rfl

/-- A sum that a double does not exceed is no less than it when it is rounded. -/
theorem not_lt_add_finite {r s t : Bool} {u v w : Nat} {hu : IsDouble u} {hv : IsDouble v}
    (hw : IsDouble w) (hle : signedUnits r w ≤ signedUnits s u + signedUnits t v) :
    lt (finite s u hu + finite t v hv) (finite r w hw) = false := by
  rcases add_finite s t hu hv with ⟨_, _, _, heq, hround⟩ | ⟨heq, hlarge⟩
  · rw [heq, lt, hround]
    have hbounds := roundSum_of_ge hw hle
    exact decide_eq_false (Int.not_lt.2 hbounds.1)
  · rw [heq, lt]
    refine decide_eq_false fun hnegative => ?_
    -- a negative sum is rounded to less than the double, without their signs
    have hunits : (signedUnits s u + signedUnits t v).natAbs ≤ w := by
      rw [signedUnits] at hle
      split at hle <;> omega
    exact absurd (hlarge.trans (roundUnits_of_le hw hunits).1) (Nat.not_le.2 hw.1)

/-- Adding what is not negative does not lead below what was not above before. -/
theorem not_lt_add {x d start : Binary64} (hx : lt x start = false) (hd : lt d 0 = false) :
    lt (x + d) start = false := by
  rw [zero_eq] at hd
  cases start with
  | nan => exact lt_nan _
  | infinite r =>
    cases r with
    | true => exact lt_neg_infinite _
    | false =>
      -- the sum is infinite as well, or no number
      cases x with
      | nan => rfl
      | infinite s =>
        cases s with
        | true => exact nomatch hx
        | false =>
          cases d with
          | nan => rfl
          | infinite t => cases t <;> rfl
          | finite t v hv => rfl
      | finite s u hu => exact nomatch hx
  | finite r w hw =>
    cases x with
    | nan => rfl
    | infinite s =>
      cases s with
      | true => exact nomatch hx
      | false =>
        cases d with
        | nan => rfl
        | infinite t => cases t <;> rfl
        | finite t v hv => rfl
    | finite s u hu =>
      cases d with
      | nan => rfl
      | infinite t =>
        cases t with
        | true => exact nomatch hd
        | false => rfl
      | finite t v hv =>
        have hstart := Int.not_lt.1 (of_decide_eq_false hx)
        have hpositive : signedUnits false 0 ≤ signedUnits t v :=
          Int.not_lt.1 (of_decide_eq_false hd)
        have hnone := signedUnits_false 0
        exact not_lt_add_finite hw (by omega)

/-! ## What is left -/

/-- Whether this time can be left of a timeout: the clock is read when the timeout begins, and again
later. -/
def IsLeft (timeout time : Binary64) : Prop :=
  ∃ start now, lt now start = false ∧ lt 0 time = true ∧ time = start + timeout - now

/-- How many binary digits the largest doubles are moved to the left. -/
def largestExponent : Nat := 2045

/-- The step of the largest doubles. -/
def largestStep : Nat := 2 ^ largestExponent

theorem pow_limit : Nat.pow 2 2098 = 2 ^ (53 + largestExponent) := by
  have hlimit : 2098 = 53 + largestExponent := rfl
  rw [hlimit, Nat.pow_eq]

/-- A double is a number of fifty-three digits, moved to the left. -/
theorem exists_of_isDouble {u : Nat} (hu : IsDouble u) :
    ∃ r < 2 ^ 53, u = r * 2 ^ (u.log2 - 52) := by
  refine ⟨u / unitStep u, div_unitStep_lt u, ?_⟩
  rw [← unitStep_eq, Nat.div_mul_cancel (Nat.dvd_of_mod_eq_zero hu.2)]

theorem log2_lt_of_lt_pow {u e : Nat} (he : 0 < e) (hu : u < 2 ^ e) : u.log2 < e := by
  by_cases hzero : u = 0
  · rwa [hzero, Nat.log2_zero]
  · exact (Nat.log2_lt hzero).2 hu

/-- The largest double is one of the largest steps below the end of the range. -/
theorem add_largestStep_le {u : Nat} (hu : IsDouble u) : u + largestStep ≤ Nat.pow 2 2098 := by
  have hlimit := hu.1
  rw [pow_limit] at hlimit ⊢
  have hlog : u.log2 < 53 + largestExponent := log2_lt_of_lt_pow (Nat.succ_pos _) hlimit
  obtain ⟨r, hr, heq⟩ := exists_of_isDouble hu
  have hstep : 2 ^ (u.log2 - 52) ≤ largestStep := Nat.pow_le_pow_right (by decide) (by omega)
  have hle : u ≤ r * largestStep := heq.le.trans (Nat.mul_le_mul_left r hstep)
  have hnext : (r + 1) * largestStep ≤ 2 ^ 53 * largestStep := Nat.mul_le_mul_right _ hr
  rw [Nat.add_one_mul] at hnext
  rw [pow_add, ← largestStep]
  exact (Nat.add_le_add_right hle largestStep).trans hnext

theorem isDouble_two_mul {v : Nat} (hv : IsDouble v) (hsmall : 2 * v < largestStep) :
    IsDouble (2 * v) := by
  have hlog : v.log2 < largestExponent :=
    log2_lt_of_lt_pow (by decide) ((Nat.le_mul_of_pos_left v (by decide)).trans_lt hsmall)
  have hexponent : largestExponent = 2045 := rfl
  obtain ⟨r, hr, heq⟩ := exists_of_isDouble hv
  have hdouble : IsDouble (r * 2 ^ (v.log2 - 52 + 1)) := isDouble_mul_two_pow hr.le (by omega)
  rwa [Nat.pow_succ, ← Nat.mul_assoc, ← heq, Nat.mul_comm] at hdouble

section

variable {s : Bool} {u v : Nat} (hu : IsDouble u) (hv : IsDouble v) (hsmall : 2 * v < largestStep)

include hu hv hsmall

/-- A clock and a small timeout add up to no more than the largest double. -/
theorem roundUnits_add_lt (hpositive : 0 ≤ signedUnits s u + v) :
    roundUnits (signedUnits s u + v).natAbs 1 < Nat.pow 2 2098 := by
  have hlargest := add_largestStep_le hu
  have hlimit := hv.1
  generalize Nat.pow 2 2098 = limit at hlargest hlimit ⊢
  cases s with
  | true =>
    have hself := signedUnits_true u
    have hround := (roundUnits_of_le hv (n := (signedUnits true u + v).natAbs) (by omega)).1
    exact hround.trans_lt hlimit
  | false =>
    have hself := signedUnits_false u
    have hround := (roundUnits_of_ge hu (n := (signedUnits false u + v).natAbs) (by omega)).2
    omega

/-- The end of a small timeout is no more than two timeouts behind the clock. -/
theorem exists_deadline :
    (finite s u hu + finite false v hv : Binary64) = infinite true ∨
      ∃ r w hw, (finite s u hu + finite false v hv : Binary64) = finite r w hw ∧
        signedUnits r w ≤ signedUnits s u + 2 * v := by
  have htimeout := signedUnits_false v
  rcases add_finite s false hu hv with
    ⟨r, w, hw, heq, hround⟩ | ⟨heq, hlarge⟩
  · have hbounds := (roundSum_of_ge (s := s) hu
      (n := signedUnits s u + signedUnits false v) (by omega)).2
    exact .inr ⟨r, w, hw, heq, by omega⟩
  · refine .inl (heq.trans (congrArg _ (decide_eq_true ?_)))
    by_contra hpositive
    have hlt := roundUnits_add_lt hu hv hsmall (Int.not_lt.1 hpositive)
    exact absurd hlarge (Nat.not_le.2 hlt)

end

/-- A positive sum that is at most a double is at most that when it is rounded. -/
theorem exists_of_lt_add_finite {s t : Bool} {u v k : Nat} {hu : IsDouble u} {hv : IsDouble v}
    (hk : IsDouble k) (hle : signedUnits s u + signedUnits t v ≤ k)
    (hpositive : lt 0 (finite s u hu + finite t v hv) = true) :
    ∃ n hn, (finite s u hu + finite t v hv : Binary64) = finite false n hn ∧ n ≤ k := by
  rw [zero_eq] at hpositive
  have hnone := signedUnits_false 0
  rcases add_finite s t hu hv with ⟨r, n, hn, heq, hround⟩ | ⟨heq, hlarge⟩
  · rw [heq, lt, decide_eq_true_iff, hnone] at hpositive
    have hself := signedUnits_false k
    have hbound := (roundSum_of_le (s := false) hk hle).1
    cases r with
    | true =>
      have hnegative := signedUnits_true n
      omega
    | false =>
      have hsame := signedUnits_false n
      exact ⟨n, hn, heq, by omega⟩
  · rw [heq, lt] at hpositive
    have hsum : ¬signedUnits s u + signedUnits t v < 0 := by simpa using hpositive
    have hround := (roundUnits_of_le hk
      (n := (signedUnits s u + signedUnits t v).natAbs) (by omega)).1
    exact absurd (hlarge.trans hround) (Nat.not_le.2 hk.1)

/-- At most twice the timeout is left, if the timeout is not as large as the steps of the largest
doubles. -/
theorem exists_of_isLeft {v : Nat} {hv : IsDouble v} (hsmall : 2 * v < largestStep)
    {time : Binary64} (hleft : IsLeft (finite false v hv) time) :
    ∃ u hu, time = finite false u hu ∧ u ≤ 2 * v := by
  obtain ⟨start, now, hclock, hpositive, rfl⟩ := hleft
  have hzero := hpositive
  rw [zero_eq] at hzero
  have hnever : ∀ {p : Prop}, false = true → p := nofun
  cases start with
  | nan => exact hnever hzero
  | infinite s =>
    cases now with
    | nan => exact hnever hzero
    | infinite t => cases s <;> cases t <;> first | exact hnever hzero | exact hnever hclock.symm
    | finite t w hw => cases s <;> first | exact hnever hzero | exact hnever hclock.symm
  | finite s u hu =>
    rcases exists_deadline (s := s) hu hv hsmall with hend | ⟨r, w, hw, hend, hle⟩
    · rw [hend] at hzero
      cases now with
      | nan => exact hnever hzero
      | infinite t => cases t <;> exact hnever hzero
      | finite t b hb => exact hnever hzero
    · rw [hend] at hpositive hzero ⊢
      cases now with
      | nan => exact hnever hzero
      | infinite t => cases t <;> first | exact hnever hzero | exact hnever hclock.symm
      | finite t b hb =>
        have hlater := Int.not_lt.1 (of_decide_eq_false hclock)
        have hneg := signedUnits_not t b
        exact exists_of_lt_add_finite (isDouble_two_mul hv hsmall) (by omega) hpositive

theorem exists_unitsPerOne_eq : ∃ e, unitsPerOne = 2 ^ e ∧ 54 + e < largestExponent := by
  have hexponent : 54 + 1074 < largestExponent := by decide
  unfold unitsPerOne
  generalize 1074 = e at hexponent ⊢
  exact ⟨e, rfl, hexponent⟩

theorem two_mul_seconds_lt {n : Nat} (hn : n ≤ 2 ^ 53) : 2 * (n * unitsPerOne) < largestStep := by
  obtain ⟨e, hunits, he⟩ := exists_unitsPerOne_eq
  calc 2 * (n * unitsPerOne)
      = 2 * n * 2 ^ e := by rw [← Nat.mul_assoc, hunits]
    _ ≤ 2 ^ 54 * 2 ^ e := Nat.mul_le_mul_right _ (by omega)
    _ = 2 ^ (54 + e) := (Nat.pow_add 2 54 e).symm
    _ < largestStep := Nat.pow_lt_pow_right (by decide) he

theorem exists_of_isLeft_ofInt {n : Nat} (hn : n ≤ 2 ^ 53) {time : Binary64}
    (hleft : IsLeft (ofInt n) time) :
    ∃ u hu, time = finite false u hu ∧ u ≤ 2 * (n * unitsPerOne) := by
  obtain ⟨_, heq⟩ := ofInt_eq (n := n) (by omega)
  have hpositive : decide ((n : Int) < 0) = false := decide_eq_false (by omega)
  rw [heq, hpositive] at hleft
  exact exists_of_isLeft (two_mul_seconds_lt hn) hleft

end HostReport.Binary64
