import HostReport.Number.Binary64

/-!
# The shortest decimal text of a double

The fewest decimal digits that are read back as the same double, and of those the ones nearest to
it. Magnitudes from `10 ^ -4` up to, and without, `10 ^ 16` are written positionally and always with
a fraction; others with an exponent of at least two digits.
-/

namespace HostReport

/-- Twice the lower and the upper bound, in units, of what rounds to the double with `units`. -/
def roundingBounds (units : Nat) : Nat × Nat :=
  let step := unitStep units
  let below := if units = step * Nat.pow 2 52 ∧ 1 < step then step / 2 else step
  (2 * units - below, 2 * units + step)

/-- The significant digits and the power of ten of the nearest decimal on the grid `10 ^ power` that
lies within the rounding bounds; the bounds count if `units / step` is even. -/
def decimalOnGrid? (units : Nat) (power : Int) : Option Nat :=
  let (low, high) := roundingBounds units
  let even := units / unitStep units % 2 = 0
  -- the grid distance is `num / den` units
  let num := unitsPerOne * Nat.pow 10 power.toNat
  let den := Nat.pow 10 (-power).toNat
  let inside (k : Nat) : Bool :=
    let x := 2 * k * num
    if even then low * den ≤ x && x ≤ high * den else low * den < x && x < high * den
  let k := units * den / num
  let nearUp := units * den - k * num > (k + 1) * num - units * den
  if inside k && inside (k + 1) then some (if nearUp then k + 1 else k)
  else if inside k then some k
  else if inside (k + 1) then some (k + 1)
  else none

/-- The first grid, of at most `count` from the power given downward, that has a decimal. -/
def shortestFrom (units : Nat) : Nat → Int → Nat × Int
  | 0, power => (units * Nat.pow 10 (-power).toNat / (unitsPerOne * Nat.pow 10 power.toNat), power)
  | count + 1, power =>
    match decimalOnGrid? units power with
    | some k => (k, power)
    | none => shortestFrom units count (power - 1)

/-- A power of ten above every double with these units. -/
def powerAbove (units : Nat) : Int := ((units.log2 : Int) - 1074) * 30103 / 100000 + 2

/-- The shortest decimal `digits * 10 ^ power` of a double that is not zero. -/
def shortestDecimal (units : Nat) : Nat × Int := shortestFrom units 24 (powerAbove units)

/-- Digits without the zeros at their end, and how many those were. -/
def withoutEndZeros : List Char → List Char × Nat
  | ds =>
    let kept := (ds.reverse.dropWhile (· == '0')).reverse
    (kept, ds.length - kept.length)

/-- The exponent of a decimal text: a sign and at least two digits. -/
def exponentText (e : Int) : String :=
  (if e < 0 then "-" else "+") ++ (if e.natAbs < 10 then "0" else "") ++ toString e.natAbs

/-- The text of the positive number that the digits after a decimal point, scaled by
`10 ^ point`, denote. -/
def decimalText (digits : List Char) (point : Int) : String :=
  if -4 < point ∧ point ≤ 16 then
    if point ≤ 0 then
      "0." ++ String.ofList (List.replicate (-point).toNat '0' ++ digits)
    else
      let n := point.toNat
      let whole := digits.take n ++ List.replicate (n - digits.length) '0'
      let fraction := digits.drop n
      String.ofList (whole ++ '.' :: (if fraction.isEmpty then ['0'] else fraction))
  else
    let mantissa := digits.take 1 ++ if digits.length ≤ 1 then [] else '.' :: digits.drop 1
    String.ofList mantissa ++ "e" ++ exponentText (point - 1)

/-- The shortest text of a double. -/
def Binary64.toShortest : Binary64 → String
  | .nan => "nan"
  | .infinite s => (if s then "-" else "") ++ "inf"
  | .finite s u _ =>
    let sign := if s then "-" else ""
    if u = 0 then sign ++ "0.0"
    else
      let (k, power) := shortestDecimal u
      let ds := Nat.toDigits 10 k
      sign ++ decimalText (withoutEndZeros ds).1 (power + ds.length)

end HostReport
