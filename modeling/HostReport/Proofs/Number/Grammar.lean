import HostReport.Proofs.Number.Numeral
import Mathlib.Data.Option.Basic

/-!
# How numbers are spelled

The grammar of numerals, given by itself: signs, digits with single underscores between them,
decimals with a point and a power of ten, and the words for infinity and for what is no number.
What is read as an integer is exactly what spells one, and the number is the one that is spelled.
-/

namespace HostReport.Numeral

open Text

/-! ## The grammar -/

/-- A natural number with its sign. -/
def signed (negative : Bool) (n : Nat) : Int := if negative then -n else n

/-- Decimal digits of any script, with at most one underscore between two of them, and their
values. -/
inductive SpellsDigits : List Char → List Nat → Prop where
  | last {c : Char} {d : Nat} (hc : decimalValue? c = some d) : SpellsDigits [c] [d]
  | next {c : Char} {d : Nat} {s : List Char} {ds : List Nat} (hc : decimalValue? c = some d)
      (hs : SpellsDigits s ds) : SpellsDigits (c :: s) (d :: ds)
  | spaced {c : Char} {d : Nat} {s : List Char} {ds : List Nat} (hc : decimalValue? c = some d)
      (hs : SpellsDigits s ds) : SpellsDigits (c :: '_' :: s) (d :: ds)

/-- A sign, which may be left out, and whether it is a minus. -/
inductive SpellsSign : List Char → Bool → Prop where
  | absent : SpellsSign [] false
  | plus : SpellsSign ['+'] false
  | minus : SpellsSign ['-'] true

/-- An integer: a sign and digits, not too many. -/
inductive SpellsInt : List Char → Int → Prop where
  | ofDigits {sign s : List Char} {negative : Bool} {ds : List Nat}
      (hsign : SpellsSign sign negative) (hs : SpellsDigits s ds)
      (hlength : ds.length ≤ maxDigits) :
      SpellsInt (sign ++ s) (signed negative (ofDigitValues ds))

/-- Digits that may be left out. -/
def MaySpellDigits (s : List Char) (ds : List Nat) : Prop := s = [] ∧ ds = [] ∨ SpellsDigits s ds

/-- The digits of a decimal, of which there is at least one, and how many of them stand behind the
point. -/
inductive SpellsMantissa : List Char → List Nat → Nat → Prop where
  | whole {s : List Char} {ds : List Nat} (hs : SpellsDigits s ds) : SpellsMantissa s ds 0
  | point {s t : List Char} {ds es : List Nat} (hs : MaySpellDigits s ds)
      (ht : MaySpellDigits t es) (hne : ds ++ es ≠ []) :
      SpellsMantissa (s ++ '.' :: t) (ds ++ es) es.length

/-- The power of ten behind a decimal, which may be left out. -/
inductive SpellsPower : List Char → Int → Prop where
  | absent : SpellsPower [] 0
  | marked {mark : Char} {sign s : List Char} {negative : Bool} {ds : List Nat}
      (hmark : mark = 'e' ∨ mark = 'E') (hsign : SpellsSign sign negative)
      (hs : SpellsDigits s ds) :
      SpellsPower (mark :: (sign ++ s)) (signed negative (ofDigitValues ds))

/-- What the numeral of a double means before it is rounded. -/
inductive Meaning where
  | nan
  | infinite (negative : Bool)
  | decimal (negative : Bool) (mantissa : Nat) (exponent : Int)

/-- The double that is nearest to what is meant. -/
def Meaning.toDouble : Meaning → Binary64
  | nan => .nan
  | infinite negative => .infinite negative
  | decimal negative mantissa exponent => .ofDecimal negative mantissa exponent

/-- The numeral of a double: a sign, and a word in any case or a decimal. -/
inductive SpellsDouble : List Char → Meaning → Prop where
  | nan {sign w : List Char} {negative : Bool} (hsign : SpellsSign sign negative)
      (hw : w.map Char.toLower = "nan".toList) : SpellsDouble (sign ++ w) .nan
  | infinite {sign w : List Char} {negative : Bool} (hsign : SpellsSign sign negative)
      (hw : w.map Char.toLower = "inf".toList ∨ w.map Char.toLower = "infinity".toList) :
      SpellsDouble (sign ++ w) (.infinite negative)
  | decimal {sign s t : List Char} {negative : Bool} {ds : List Nat} {places : Nat} {power : Int}
      (hsign : SpellsSign sign negative) (hs : SpellsMantissa s ds places)
      (ht : SpellsPower t power) :
      SpellsDouble (sign ++ (s ++ t)) (.decimal negative (ofDigitValues ds) (power - places))

/-! ## Digits -/

variable {s t sign : List Char} {ds : List Nat} {negative : Bool} {c : Char} {d : Nat}

theorem decimalValue?_lt (hc : decimalValue? c = some d) : d < 10 := by
  simp only [decimalValue?] at hc
  split at hc
  · split at hc
    · cases hc
      omega
    · cases hc
  · obtain ⟨z, hz, rfl⟩ := Option.map_eq_some_iff.1 hc
    have hrange := List.find?_some hz
    simp only [Bool.and_eq_true, decide_eq_true_eq] at hrange
    omega

theorem ne_underscore_of_decimalValue? (hc : decimalValue? c = some d) : c ≠ '_' := by
  rintro rfl
  exact nomatch (show (none : Option Nat) = some d from hc)

theorem SpellsDigits.exists_head (hs : SpellsDigits s ds) :
    ∃ c r d, s = c :: r ∧ decimalValue? c = some d := by
  cases hs with
  | last hc => exact ⟨_, _, _, rfl, hc⟩
  | next hc _ => exact ⟨_, _, _, rfl, hc⟩
  | spaced hc _ => exact ⟨_, _, _, rfl, hc⟩

theorem digitValues?_eq_some_iff : digitValues? s = some ds ↔ SpellsDigits s ds := by
  constructor
  · intro hread
    fun_induction digitValues? s generalizing ds with
    | case1 => exact nomatch hread
    | case2 c =>
      obtain ⟨d, hc, rfl⟩ := Option.map_eq_some_iff.1 hread
      exact .last hc
    | case3 c r ih =>
      obtain ⟨d, hc, hread⟩ := Option.bind_eq_some_iff.1 hread
      obtain ⟨es, hes, hread⟩ := Option.bind_eq_some_iff.1 hread
      cases hread
      exact .spaced hc (ih hes)
    | case4 c r _ _ ih =>
      obtain ⟨d, hc, hread⟩ := Option.bind_eq_some_iff.1 hread
      obtain ⟨es, hes, hread⟩ := Option.bind_eq_some_iff.1 hread
      cases hread
      exact .next hc (ih hes)
  · intro hs
    induction hs with
    | last hc => rw [digitValues?, hc]; rfl
    | next hc hs ih =>
      obtain ⟨c', r, d', rfl, hc'⟩ := hs.exists_head
      rw [digitValues?.eq_4 _ _ (List.cons_ne_nil c' r)
        fun _ h => ne_underscore_of_decimalValue? hc' (List.cons.inj h).1, hc, ih]
      rfl
    | spaced hc _ ih => rw [digitValues?, hc, ih]; rfl

/-! ## Signs -/

theorem splitSign_spells (s : List Char) :
    ∃ sign, SpellsSign sign (splitSign s).1 ∧ s = sign ++ (splitSign s).2 := by
  fun_cases splitSign s with
  | case1 r => exact ⟨['-'], .minus, rfl⟩
  | case2 r => exact ⟨['+'], .plus, rfl⟩
  | case3 => exact ⟨[], .absent, rfl⟩

theorem splitSign_append (hsign : SpellsSign sign negative)
    (hs : ∀ c ∈ s.head?, c ≠ '-' ∧ c ≠ '+') : splitSign (sign ++ s) = (negative, s) := by
  cases hsign with
  | absent =>
    rw [List.nil_append]
    fun_cases splitSign s with
    | case1 r => exact absurd rfl (hs '-' rfl).1
    | case2 r => exact absurd rfl (hs '+' rfl).2
    | case3 => rfl
  | plus => rfl
  | minus => rfl

theorem not_sign_of_decimalValue? (hc : decimalValue? c = some d) : c ≠ '-' ∧ c ≠ '+' := by
  constructor
  · rintro rfl
    exact nomatch (show (none : Option Nat) = some d from hc)
  · rintro rfl
    exact nomatch (show (none : Option Nat) = some d from hc)

/-! ## Integers -/

/-- What is read as an integer is exactly what spells one. -/
theorem readInt?_eq_some_iff {n : Int} :
    readInt? s = some n ↔ SpellsInt (trim isPadding s) n := by
  generalize hr : trim isPadding s = r
  rw [readInt?, hr]
  constructor
  · intro hread
    obtain ⟨sign, hsign, htext⟩ := splitSign_spells r
    generalize splitSign r = parts at hread hsign htext
    obtain ⟨negative, digits⟩ := parts
    obtain ⟨ds, hds, hread⟩ := Option.bind_eq_some_iff.1 hread
    obtain ⟨_, hguard, hread⟩ := Option.bind_eq_some_iff.1 hread
    have hlength : ds.length ≤ maxDigits := (Option.guard_eq_some' _).1 hguard
    cases hread
    rw [htext]
    exact .ofDigits hsign (digitValues?_eq_some_iff.1 hds) hlength
  · rintro @⟨sign, s, negative, ds, hsign, hds, hlength⟩
    obtain ⟨c, r, d, rfl, hc⟩ := hds.exists_head
    have hsplit := splitSign_append (s := c :: r) hsign fun c' hc' => by
      cases hc'
      exact not_sign_of_decimalValue? hc
    rw [hsplit]
    dsimp only
    have hguard : (guard (ds.length ≤ maxDigits) : Option Unit) = some () :=
      (Option.guard_eq_some' _).2 hlength
    rw [digitValues?_eq_some_iff.2 hds, Option.bind_eq_bind, Option.bind_some, hguard]
    rfl

end HostReport.Numeral
