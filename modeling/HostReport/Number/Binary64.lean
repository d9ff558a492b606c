import HostReport.Number.Rounding

/-!
# Double-precision numbers

Every finite double is a whole number of units of `2 ^ -1074`, the smallest positive one, and its
units are a natural number below `2 ^ 53` times a power of two. So arithmetic is done exactly on
units and rounded once, to the nearest double with ties to even; what exceeds the largest double by
half a step or more becomes infinite.
-/

namespace HostReport

/-- The number of units of a double that make one. -/
def unitsPerOne : Nat := Nat.pow 2 1074

/-- The power of two by which the units of a double of this size are divisible. -/
def unitStep (units : Nat) : Nat := Nat.pow 2 (units.log2 - 52)

/-- Whether a number of units is that of a finite double. -/
def IsDouble (units : Nat) : Prop := units < Nat.pow 2 2098 ∧ units % unitStep units = 0

instance (units : Nat) : Decidable (IsDouble units) := inferInstanceAs (Decidable (_ ∧ _))

/-- A double-precision number: not a number, infinite, or a sign and a number of units. -/
inductive Binary64 where
  | nan
  | infinite (negative : Bool)
  | finite (negative : Bool) (units : Nat) (isDouble : IsDouble units)
  deriving DecidableEq

namespace Binary64

/-- The quotient of units nearest to `n / d` among those of doubles without a largest one. -/
def roundUnits (n d : Nat) : Nat :=
  let step := unitStep (n / d)
  roundQuotient n (d * step) * step

/-- The double with this sign and these units, infinite if they are too many. -/
def ofUnits (negative : Bool) (units : Nat) : Binary64 :=
  if h : IsDouble units then .finite negative units h else .infinite negative

/-- The double nearest to `n / d`, with the sign given. -/
def ofRatio (negative : Bool) (n d : Nat) : Binary64 :=
  ofUnits negative (roundUnits (n * unitsPerOne) d)

/-- The double nearest to an integer. -/
def ofInt (n : Int) : Binary64 := ofRatio (n < 0) n.natAbs 1

instance (n : Nat) : OfNat Binary64 n := ⟨ofInt n⟩

/-- The double nearest to `mantissa * 10 ^ exponent`, with the sign given. Powers of ten beyond the
range of doubles are decided by the number of digits alone. -/
def ofDecimal (negative : Bool) (mantissa : Nat) (exponent : Int) : Binary64 :=
  if mantissa = 0 then ofRatio negative 0 1
  else
    let magnitude := exponent + (Nat.toDigits 10 mantissa).length
    if 400 < magnitude then .infinite negative
    else if magnitude < -400 then ofRatio negative 0 1
    else if 0 ≤ exponent then ofRatio negative (mantissa * Nat.pow 10 exponent.toNat) 1
    else ofRatio negative mantissa (Nat.pow 10 (-exponent).toNat)

/-- Whether a double is finite. -/
def isFinite : Binary64 → Bool
  | .finite .. => true
  | _ => false

/-- A number of units with its sign. -/
def signedUnits (negative : Bool) (units : Nat) : Int := if negative then -units else units

/-- The opposite number. -/
def neg : Binary64 → Binary64
  | .nan => .nan
  | .infinite s => .infinite (!s)
  | .finite s u h => .finite (!s) u h

/-- The sum, correctly rounded; opposite numbers add up to positive zero. -/
def add : Binary64 → Binary64 → Binary64
  | .nan, _ => .nan
  | _, .nan => .nan
  | .infinite s, .infinite t => if s = t then .infinite s else .nan
  | .infinite s, .finite .. => .infinite s
  | .finite .., .infinite t => .infinite t
  | .finite s u _, .finite t v _ =>
    let sum := signedUnits s u + signedUnits t v
    if sum = 0 then ofUnits (s && t) 0
    else ofUnits (sum < 0) (roundUnits sum.natAbs 1)

/-- The difference, correctly rounded. -/
def sub (x y : Binary64) : Binary64 := add x y.neg

/-- The quotient, correctly rounded; a divisor of zero gives no number here. -/
def div : Binary64 → Binary64 → Binary64
  | .nan, _ => .nan
  | _, .nan => .nan
  | .infinite _, .infinite _ => .nan
  | .infinite s, .finite t _ _ => .infinite (s != t)
  | .finite s _ _, .infinite t => ofUnits (s != t) 0
  | .finite s u _, .finite t v _ => if v = 0 then .nan else ofRatio (s != t) u v

instance : Neg Binary64 := ⟨neg⟩
instance : Add Binary64 := ⟨add⟩
instance : Sub Binary64 := ⟨sub⟩
instance : Div Binary64 := ⟨div⟩

/-- Whether the number is less than the other; nothing is less or greater than what is no number. -/
def lt : Binary64 → Binary64 → Bool
  | .nan, _ => false
  | _, .nan => false
  | .infinite s, .infinite t => s && !t
  | .infinite s, .finite .. => s
  | .finite .., .infinite t => !t
  | .finite s u _, .finite t v _ => signedUnits s u < signedUnits t v

/-- Whether the number is zero, of either sign. -/
def isZero : Binary64 → Bool
  | .finite _ u _ => u == 0
  | _ => false

/-- The integer part, rounded toward zero, of a finite number. -/
def truncate? : Binary64 → Option Int
  | .finite s u _ => some (signedUnits s (u / unitsPerOne))
  | _ => none

/-- The sixty-four bits of a double: sign, exponent and fraction. -/
def toBits : Binary64 → Nat
  | .nan => 0x7FF8000000000000
  | .infinite s => (if s then Nat.pow 2 63 else 0) + 0x7FF0000000000000
  | .finite s u _ =>
    let magnitude :=
      if u < Nat.pow 2 52 then u
      else (u.log2 - 52) * Nat.pow 2 52 + u / unitStep u
    (if s then Nat.pow 2 63 else 0) + magnitude

/-- The integer quotient as a double, or nothing if it is out of range. -/
def ofQuotient? (n : Int) (d : Nat) : Option Binary64 :=
  let x := ofRatio (n < 0) n.natAbs d
  if x.isFinite then some x else none

/-- An integer as a double, or nothing if it is out of range. -/
def ofInt? (n : Int) : Option Binary64 := ofQuotient? n 1

end Binary64

end HostReport
