/-!
# Rounding a quotient

A quotient of natural numbers rounded to the nearest natural number; a quotient halfway between two
goes to the even one.
-/

namespace HostReport

/-- The natural number nearest to `n / d`, the even one of two that are equally near. -/
def roundQuotient (n d : Nat) : Nat :=
  let q := n / d
  let r := n % d
  if 2 * r < d then q
  else if d < 2 * r then q + 1
  else if q % 2 = 0 then q else q + 1

theorem roundQuotient_of_dvd {n d : Nat} (hd : 0 < d) (h : d ∣ n) :
    roundQuotient n d = n / d := by
  simp [roundQuotient, Nat.mod_eq_zero_of_dvd h, hd]

end HostReport
