import HostReport.Text.Blank
import HostReport.Text.Letter

/-!
# Scanning

A scanner reads from the front of a text and returns a value with the rest, or nothing. A run takes
as many characters of a class as there are, so a scanner built from runs of disjoint classes and
fixed words reads in only one way. `findFirst` gives the leftmost place at which a scanner reads
something, `findAll` all of them from left to right, each starting where the one before ended.
-/

namespace HostReport.Text

/-- A reader of the front of a text. -/
abbrev Scan := StateT (List Char) Option

namespace Scan

/-- Reads exactly the word `w`. -/
def word (w : String) : Scan Unit := fun s => (w.toList.isPrefixOf? s).map fun r => ((), r)

/-- Reads the characters of `w` without regard to case. -/
def caselessChars : List Char → List Char → Option (List Char)
  | [], s => some s
  | _ :: _, [] => none
  | a :: w, c :: s => if sameLetter a c then caselessChars w s else none

/-- Reads the word `w` without regard to case. -/
def caseless (w : String) : Scan Unit := fun s => (caselessChars w.toList s).map fun r => ((), r)

/-- Reads all characters of the class `p` at the front, which may be none. -/
def run (p : Char → Bool) : Scan (List Char) := fun s => some (s.takeWhile p, s.dropWhile p)

/-- Reads one character of the class `p`. -/
def one (p : Char → Bool) : Scan Char
  | c :: r => if p c then some (c, r) else none
  | [] => none

/-- Reads all characters of the class `p` at the front, of which there is at least one. -/
def run1 (p : Char → Bool) : Scan (List Char) := do
  let c ← one p
  let r ← run p
  return c :: r

/-- Reads blanks, if any. -/
def blanks : Scan (List Char) := run isBlank

/-- Reads at least one blank. -/
def blanks1 : Scan (List Char) := run1 isBlank

/-- Reads what `p` reads, or nothing where it reads nothing. -/
def optional (p : Scan Unit) : Scan Unit := fun s => some ((p s).getD ((), s))

/-- What follows the part that `p` reads at the leftmost place where it reads something. -/
def skipPast (p : Scan Unit) : List Char → Option (List Char)
  | [] => none
  | c :: cs =>
    match p (c :: cs) with
    | some (_, rest) => some rest
    | none => skipPast p cs

/-- The value read at the leftmost place where `p` reads one. -/
def findFirst {α : Type} (p : Scan α) : List Char → Option α
  | [] => none
  | c :: cs =>
    match p (c :: cs) with
    | some (a, _) => some a
    | none => findFirst p cs

/-- The values read from left to right, after passing over `skip` characters of the one before. -/
def findAllFrom {α : Type} (p : Scan α) : Nat → List Char → List α
  | _, [] => []
  | skip + 1, _ :: cs => findAllFrom p skip cs
  | 0, c :: cs =>
    match p (c :: cs) with
    | some (a, rest) => a :: findAllFrom p (cs.length - rest.length) cs
    | none => findAllFrom p 0 cs

/-- The values read from left to right without overlaps. -/
def findAll {α : Type} (p : Scan α) (s : List Char) : List α := findAllFrom p 0 s

end Scan

end HostReport.Text
