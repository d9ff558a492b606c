import HostReport.Number.Fixed
import HostReport.Proofs.Number.Range

/-!
# Rounding to the nearest number

A quotient is rounded by half a unit at most, larger quotients are not rounded to less, and only the
quotient counts, not the two numbers that it is given by.  Doubles inherit the last of these.  Whole
numbers of at most fifty-three binary digits are doubles, and so are their quotients by powers of
two: they are compared, divided and written with two decimal places as if doubles were exact.
-/

namespace HostReport

/-! ## One quotient -/

/-- What is rounded differs from the multiple that it is rounded to by half the divisor at most. -/
theorem roundQuotient_nearest (n : Nat) {d : Nat} (hd : 0 < d) :
    2 * n ≤ 2 * (roundQuotient n d * d) + d ∧ 2 * (roundQuotient n d * d) ≤ 2 * n + d := by
  have hn : n / d * d + n % d = n := Nat.div_add_mod' n d
  have hr : n % d < d := Nat.mod_lt n hd
  have hup : (n / d + 1) * d = n / d * d + d := Nat.add_one_mul (n / d) d
  simp only [roundQuotient]
  split
  · omega
  split
  · omega
  split
  · omega
  · omega

theorem roundQuotient_mono {n m d : Nat} (hd : 0 < d) (hnm : n ≤ m) :
    roundQuotient n d ≤ roundQuotient m d := by
  by_contra hless
  have hstep : (roundQuotient m d + 1) * d ≤ roundQuotient n d * d :=
    Nat.mul_le_mul_right d (Nat.lt_of_not_le hless)
  rw [Nat.add_one_mul] at hstep
  -- the smaller number was rounded up by half the divisor and the larger one down
  have hbelow := (roundQuotient_nearest n hd).2
  have habove := (roundQuotient_nearest m hd).1
  obtain rfl : n = m := by omega
  exact hless le_rfl

theorem roundQuotient_mul_right (n d : Nat) {c : Nat} (hc : 0 < c) :
    roundQuotient (n * c) (d * c) = roundQuotient n d := by
  have hless : 2 * (n % d * c) < d * c ↔ 2 * (n % d) < d := by
    rw [← Nat.mul_assoc, Nat.mul_lt_mul_right hc]
  have hmore : d * c < 2 * (n % d * c) ↔ d < 2 * (n % d) := by
    rw [← Nat.mul_assoc, Nat.mul_lt_mul_right hc]
  simp only [roundQuotient, Nat.mul_div_mul_right n d hc, Nat.mul_mod_mul_right, hless, hmore]

namespace Binary64

/-! ## Quotients as doubles -/

theorem roundUnits_mul_right (n d : Nat) {c : Nat} (hc : 0 < c) :
    roundUnits (n * c) (d * c) = roundUnits n d := by
  rw [roundUnits_eq, roundUnits_eq, Nat.mul_div_mul_right n d hc, Nat.mul_right_comm d c,
    roundQuotient_mul_right n _ hc]

theorem ofRatio_mul_right (negative : Bool) (n d : Nat) {c : Nat} (hc : 0 < c) :
    ofRatio negative (n * c) (d * c) = ofRatio negative n d := by
  rw [ofRatio, ofRatio, Nat.mul_right_comm, roundUnits_mul_right _ d hc]

theorem ofQuotient?_mul_right (n : Int) (d : Nat) {c : Nat} (hc : 0 < c) :
    ofQuotient? (n * c) (d * c) = ofQuotient? n d := by
  have hsign : n * c < 0 ↔ n < 0 :=
    calc n * c < 0
        ↔ n * c < 0 * c := by rw [Int.zero_mul]
      _ ↔ n < 0 := Int.mul_lt_mul_right (Int.natCast_pos.2 hc)
  simp only [ofQuotient?, Int.natAbs_mul, Int.natAbs_natCast, ofRatio_mul_right _ _ d hc, hsign]

/-! ## Quotients that are doubles -/

theorem roundUnits_of_isDouble {u : Nat} (hu : IsDouble u) {d : Nat} (hd : 0 < d) :
    roundUnits (u * d) d = u := by
  have hstep : unitStep u ∣ u := Nat.dvd_of_mod_eq_zero hu.2
  have hdvd : d * unitStep u ∣ d * u := Nat.mul_dvd_mul_left d hstep
  rw [roundUnits_eq, Nat.mul_div_cancel u hd, Nat.mul_comm u d,
    roundQuotient_of_dvd (Nat.mul_pos hd (unitStep_pos u)) hdvd, Nat.mul_div_mul_left u _ hd,
    Nat.div_mul_cancel hstep]

theorem isDouble_mul_two_pow {r k : Nat} (hr : r ≤ 2 ^ 53) (hk : k < 2045) :
    IsDouble (r * 2 ^ k) := by
  have hle : r * 2 ^ k ≤ 2 ^ (53 + k) := by
    rw [Nat.pow_add]
    exact Nat.mul_le_mul_right _ hr
  refine ⟨hle.trans_lt ?_, mod_unitStep_eq_zero hr k⟩
  apply Nat.pow_lt_pow_right
  · decide
  · omega

theorem unitsPerOne_eq {k : Nat} (hk : k ≤ 1074) : unitsPerOne = 2 ^ (1074 - k) * 2 ^ k := by
  unfold unitsPerOne
  generalize 1074 = e at hk ⊢
  rw [← Nat.pow_add, Nat.sub_add_cancel hk, Nat.pow_eq]

/-- A number of at most fifty-three digits divided by a power of two is not rounded. -/
theorem ofRatio_two_pow (negative : Bool) {n k : Nat} (hn : n ≤ 2 ^ 53) (hk : k ≤ 1074) :
    ∃ h, ofRatio negative n (2 ^ k) = .finite negative (n * 2 ^ (1074 - k)) h := by
  have hdouble : IsDouble (n * 2 ^ (1074 - k)) := isDouble_mul_two_pow hn (by omega)
  refine ⟨hdouble, ?_⟩
  rw [ofRatio, unitsPerOne_eq hk, ← Nat.mul_assoc,
    roundUnits_of_isDouble hdouble (Nat.two_pow_pos k), ofUnits, dif_pos hdouble]

theorem toFixed_ofRatio_two_pow (negative : Bool) {n k : Nat} (hn : n ≤ 2 ^ 53) (hk : k ≤ 1074) :
    (ofRatio negative n (2 ^ k)).toFixed =
      (if negative then "-" else "") ++ hundredthsText (roundQuotient (n * 100) (2 ^ k)) := by
  obtain ⟨h, heq⟩ := ofRatio_two_pow negative hn hk
  have hround : roundQuotient (n * 2 ^ (1074 - k) * 100) unitsPerOne =
      roundQuotient (n * 100) (2 ^ k) := by
    rw [unitsPerOne_eq hk, Nat.mul_right_comm, Nat.mul_comm _ (2 ^ k),
      roundQuotient_mul_right _ _ (Nat.two_pow_pos _)]
  rw [heq, toFixed, hround]

/-! ## Whole numbers -/

section

variable {n m : Int}

theorem ofInt_eq (hn : n.natAbs ≤ 2 ^ 53) :
    ∃ h, ofInt n = .finite (decide (n < 0)) (n.natAbs * unitsPerOne) h := by
  obtain ⟨h, heq⟩ := ofRatio_two_pow (decide (n < 0)) hn (Nat.zero_le 1074)
  have hunits : 2 ^ (1074 - 0) = unitsPerOne := by
    rw [unitsPerOne_eq (Nat.zero_le 1074), Nat.pow_zero, Nat.mul_one]
  simp only [hunits] at h heq
  exact ⟨h, heq⟩

theorem signedUnits_false (u : Nat) : signedUnits false u = u := rfl

theorem signedUnits_true (u : Nat) : signedUnits true u = -u := rfl

theorem signedUnits_not (s : Bool) (u : Nat) : signedUnits (!s) u = -signedUnits s u := by
  cases s with
  | false => rfl
  | true => exact (Int.neg_neg _).symm

theorem signedUnits_natAbs_mul (n : Int) (u : Nat) :
    signedUnits (decide (n < 0)) (n.natAbs * u) = n * u := by
  by_cases hn : n < 0
  · rw [signedUnits, if_pos (decide_eq_true hn), Nat.cast_mul, Int.ofNat_natAbs_of_nonpos hn.le,
      Int.neg_mul, Int.neg_neg]
  · rw [signedUnits, if_neg (by simpa using hn), Nat.cast_mul,
      Int.natAbs_of_nonneg (Int.not_lt.1 hn)]

theorem lt_ofInt_iff (hn : n.natAbs ≤ 2 ^ 53) (hm : m.natAbs ≤ 2 ^ 53) :
    lt (ofInt n) (ofInt m) = true ↔ n < m := by
  obtain ⟨_, hn⟩ := ofInt_eq hn
  obtain ⟨_, hm⟩ := ofInt_eq hm
  rw [hn, hm, lt, signedUnits_natAbs_mul, signedUnits_natAbs_mul, decide_eq_true_iff,
    Int.mul_lt_mul_right (Int.natCast_pos.2 unitsPerOne_pos)]

theorem ofNat_eq_ofInt (k : Nat) : (OfNat.ofNat k : Binary64) = ofInt k := rfl

theorem ofInt_div_natCast (hn : n.natAbs ≤ 2 ^ 53) {d : Nat} (hd : d ≤ 2 ^ 53) (hpos : 0 < d) :
    ofInt n / ofInt d = ofRatio (decide (n < 0)) n.natAbs d := by
  obtain ⟨_, hn⟩ := ofInt_eq hn
  obtain ⟨_, hd⟩ := ofInt_eq (n := d) hd
  have hsign : decide ((d : Int) < 0) = false := decide_eq_false (by omega)
  have hne : (d : Int).natAbs * unitsPerOne ≠ 0 := (Nat.mul_pos (by omega) unitsPerOne_pos).ne'
  rw [hn, hd]
  change div _ _ = _
  rw [div, if_neg hne, hsign, Bool.bne_false, Int.natAbs_natCast,
    ofRatio_mul_right _ _ _ unitsPerOne_pos]

end

end Binary64

end HostReport
