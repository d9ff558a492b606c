import HostReport.Bytes
import Mathlib.Algebra.Group.Nat.Defs
import Mathlib.Data.List.Induction

/-!
# Fields and numbers in bytes

A field is cut out of what was written by its position and width.  What is read from the bytes that
a number is written as is the number again, and as many bytes are those of their number alone.  The
number that bytes hold after an exclusive or, position by position, is the exclusive or of the two
numbers.
-/

namespace HostReport.Bytes

/-- A field of fixed width is found behind what stands before it. -/
theorem take_drop_field {front field : Bytes} {n m : Nat} (hn : front.length = n)
    (hm : field.length = m) (rest : Bytes) :
    ((front ++ (field ++ rest)).drop n).take m = field := by
  rw [List.drop_left' hn, List.take_left' hm]

theorem toNat_append_singleton (bytes : Bytes) (b : UInt8) :
    toNat (bytes ++ [b]) = toNat bytes * 256 + b.toNat := by
  simp [toNat]

/-- Every number that fits the width is read back from its bytes. -/
theorem toNat_ofNat {count n : Nat} (h : n < 256 ^ count) : toNat (ofNat count n) = n := by
  induction count generalizing n with
  | zero =>
    have hn : n = 0 := by simpa using h
    simp [ofNat, toNat, hn]
  | succ count ih =>
    have hquotient : n / 256 < 256 ^ count := by
      rw [Nat.pow_succ] at h
      exact Nat.div_lt_of_lt_mul (by omega)
    have hbyte : (UInt8.ofNat (n % 256)).toNat = n % 256 := by simp
    rw [ofNat, toNat_append_singleton, ih hquotient, hbyte]
    omega

theorem toNat_append (a b : Bytes) : toNat (a ++ b) = toNat a * 256 ^ b.length + toNat b := by
  induction b using List.reverseRecOn with
  | nil => simp [toNat]
  | append_singleton b x ih =>
    rw [← List.append_assoc, toNat_append_singleton, toNat_append_singleton, ih,
      List.length_append, List.length_singleton, Nat.pow_succ, Nat.add_mul, Nat.mul_assoc,
      Nat.add_assoc]

theorem toNat_lt (bytes : Bytes) : toNat bytes < 256 ^ bytes.length := by
  induction bytes using List.reverseRecOn with
  | nil => simp [toNat]
  | append_singleton bytes x ih =>
    have hx : x.toNat < 256 := x.toNat_lt
    rw [toNat_append_singleton, List.length_append, List.length_singleton, Nat.pow_succ]
    omega

/-- Bytes are those of their number. -/
theorem ofNat_toNat (bytes : Bytes) : ofNat bytes.length (toNat bytes) = bytes := by
  induction bytes using List.reverseRecOn with
  | nil => rfl
  | append_singleton bytes x ih =>
    have hx : x.toNat < 256 := x.toNat_lt
    have hhigh : (toNat bytes * 256 + x.toNat) / 256 = toNat bytes := by omega
    have hlow : (toNat bytes * 256 + x.toNat) % 256 = x.toNat := by omega
    rw [toNat_append_singleton, List.length_append, List.length_singleton, ofNat, hhigh, hlow, ih,
      UInt8.ofNat_toNat]

/-- As many bytes hold different numbers. -/
theorem toNat_inj {a b : Bytes} (hlength : a.length = b.length) : toNat a = toNat b ↔ a = b := by
  refine ⟨fun heq => ?_, congrArg toNat⟩
  rw [← ofNat_toNat a, ← ofNat_toNat b, hlength, heq]

/-- Numbers made of a high part and a low byte combine by exclusive or part by part. -/
theorem xor_mul_add_byte (m n : Nat) {x y : Nat} (hx : x < 256) (hy : y < 256) :
    (m * 256 + x) ^^^ (n * 256 + y) = (m ^^^ n) * 256 + (x ^^^ y) := by
  have hxy : x ^^^ y < 2 ^ 8 := Nat.xor_lt_two_pow (n := 8) hx hy
  apply Nat.eq_of_testBit_eq
  intro i
  rw [Nat.testBit_xor, Nat.mul_comm m, Nat.mul_comm n, Nat.mul_comm (m ^^^ n),
    show (256 : Nat) = 2 ^ 8 from rfl, Nat.testBit_two_pow_mul_add m hx,
    Nat.testBit_two_pow_mul_add n hy, Nat.testBit_two_pow_mul_add (m ^^^ n) hxy]
  split
  · rw [Nat.testBit_xor]
  · rw [Nat.testBit_xor]

/-- Reading on from two numbers commutes with combining bytes, so the induction runs over both
lists at once with the numbers read so far as parameters. -/
theorem foldl_zipWith_xor (m n : Nat) {a b : Bytes} (h : a.length = b.length) :
    (List.zipWith (· ^^^ ·) a b).foldl (fun n x => n * 256 + x.toNat) (m ^^^ n) =
      a.foldl (fun n x => n * 256 + x.toNat) m ^^^ b.foldl (fun n x => n * 256 + x.toNat) n := by
  induction a generalizing b m n with
  | nil =>
    have hb : b = [] := List.length_eq_zero_iff.1 h.symm
    simp [hb]
  | cons x a ih =>
    obtain ⟨y, b, rfl⟩ := List.exists_cons_of_length_eq_add_one h.symm
    have hstep := xor_mul_add_byte m n x.toNat_lt y.toNat_lt
    rw [List.zipWith_cons_cons, List.foldl_cons, List.foldl_cons, List.foldl_cons,
      UInt8.toNat_xor, ← hstep]
    exact ih _ _ (by simpa using h)

theorem toNat_zipWith_xor {a b : Bytes} (h : a.length = b.length) :
    toNat (List.zipWith (· ^^^ ·) a b) = toNat a ^^^ toNat b := by
  simpa [toNat] using foldl_zipWith_xor 0 0 h

end HostReport.Bytes
