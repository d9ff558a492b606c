import HostReport.Proofs.Number.Grammar
import HostReport.Proofs.Text.HexDigit
import HostReport.Proofs.Text.Scan

/-!
# Numerals of doubles

What is read as a double is exactly what the grammar spells as one, and the double is the nearest
to what is meant.  Digits of other scripts and underscores are done away with first, in one pass
over the whole text; so the parts of a numeral are followed through this pass, in both directions,
before they are read.
-/

namespace HostReport.Numeral

open Text

variable {s t sign : List Char} {ds : List Nat} {negative : Bool} {c : Char} {d : Nat}

/-! ## Plain digits -/

/-- The ASCII digit of this value. -/
def asciiDigit (d : Nat) : Char := Char.ofNat (48 + d)

theorem toNat_asciiDigit (hd : d < 10) : (asciiDigit d).toNat = 48 + d := by
  have hall : ∀ d < 10, (asciiDigit d).toNat = 48 + d := by decide
  exact hall d hd

theorem isDigit_asciiDigit (hd : d < 10) : (asciiDigit d).isDigit = true := by
  have hall : ∀ d < 10, (asciiDigit d).isDigit = true := by decide
  exact hall d hd

theorem SpellsDigits.lt (hs : SpellsDigits s ds) : ∀ d ∈ ds, d < 10 := by
  induction hs with
  | last hc => exact List.forall_mem_singleton.2 (decimalValue?_lt hc)
  | next hc _ ih => exact List.forall_mem_cons.2 ⟨decimalValue?_lt hc, ih⟩
  | spaced hc _ ih => exact List.forall_mem_cons.2 ⟨decimalValue?_lt hc, ih⟩

theorem SpellsDigits.ne_nil (hs : SpellsDigits s ds) : ds ≠ [] := by
  cases hs <;> exact List.cons_ne_nil _ _

theorem isDigit_of_mem_map_asciiDigit (hds : ∀ d ∈ ds, d < 10) :
    ∀ c ∈ ds.map asciiDigit, c.isDigit = true :=
  List.forall_mem_map.2 fun d hd => isDigit_asciiDigit (hds d hd)

theorem ofAsciiDigits_map_asciiDigit (hds : ∀ d ∈ ds, d < 10) :
    ofAsciiDigits (ds.map asciiDigit) = ofDigitValues ds := by
  have hvalues : (ds.map asciiDigit).map (fun c => c.toNat - 48) = ds := by
    rw [List.map_map]
    refine List.map_congr_left (fun d hd => ?_) |>.trans (List.map_id ds)
    rw [Function.comp_apply, toNat_asciiDigit (hds d hd), Nat.add_sub_cancel_left]
    rfl
  rw [ofAsciiDigits, hvalues]

theorem plainDigits?_of_decimal (hc : decimalValue? c = some d) (afterDigit : Bool) :
    plainDigits? afterDigit (c :: s) = (plainDigits? true s).map (asciiDigit d :: ·) := by
  rw [plainDigits?, if_neg (ne_underscore_of_decimalValue? hc), hc]
  rfl

theorem plainDigits?_of_not_decimal (hc : decimalValue? c = none ∧ c ≠ '_') (afterDigit : Bool) :
    plainDigits? afterDigit (c :: s) = (plainDigits? false s).map (c :: ·) := by
  rw [plainDigits?, if_neg hc.2, hc.1]

theorem SpellsDigits.plainDigits?_append (hs : SpellsDigits s ds) (afterDigit : Bool)
    (t : List Char) :
    plainDigits? afterDigit (s ++ t) = (plainDigits? true t).map (ds.map asciiDigit ++ ·) := by
  induction hs generalizing afterDigit with
  | last hc => exact plainDigits?_of_decimal hc afterDigit
  | next hc _ ih =>
    rw [List.cons_append, plainDigits?_of_decimal hc, ih, Option.map_map]
    rfl
  | @spaced c d s ds hc hs ih =>
    have hunderscore : plainDigits? true ('_' :: (s ++ t)) = plainDigits? false (s ++ t) := by
      obtain ⟨c', r, d', rfl, hc'⟩ := hs.exists_head
      have hdecimal : isDecimal c' = true := by rw [isDecimal, hc']; rfl
      rw [plainDigits?, if_pos rfl, if_pos (by simp [hdecimal])]
    rw [List.cons_append, List.cons_append, plainDigits?_of_decimal hc, hunderscore, ih,
      Option.map_map]
    rfl

theorem SpellsSign.plainDigits?_append {p : List Char} (hsign : SpellsSign sign negative)
    (hplain : plainDigits? false t = some p) :
    plainDigits? false (sign ++ t) = some (sign ++ p) := by
  cases hsign with
  | absent => exact hplain
  | plus =>
    exact (plainDigits?_of_not_decimal (by decide) false).trans (congrArg (Option.map _) hplain)
  | minus =>
    exact (plainDigits?_of_not_decimal (by decide) false).trans (congrArg (Option.map _) hplain)

/-- The text goes on with neither a digit nor an underscore. -/
def Stops (s : List Char) : Prop := ∀ c ∈ s.head?, decimalValue? c = none ∧ c ≠ '_'

theorem stops_nil : Stops [] := fun _ hc => nomatch hc

/-- What digits and underscores may stand somewhere: behind a digit the rest of a spelling, and
elsewhere a whole one or nothing. -/
def SpellsRun (afterDigit : Bool) (s : List Char) (ds : List Nat) : Prop :=
  if afterDigit then ∀ c d, decimalValue? c = some d → SpellsDigits (c :: s) (d :: ds)
  else MaySpellDigits s ds

theorem spellsRun_nil (afterDigit : Bool) : SpellsRun afterDigit [] [] := by
  cases afterDigit with
  | false => exact .inl ⟨rfl, rfl⟩
  | true => exact fun _ _ hc => .last hc

/-- A text that is written plainly begins with a run of digits. -/
theorem exists_run_of_plainDigits? {afterDigit : Bool} {p : List Char}
    (hplain : plainDigits? afterDigit s = some p) :
    ∃ w ds r q, s = w ++ r ∧ p = ds.map asciiDigit ++ q ∧ SpellsRun afterDigit w ds ∧ Stops r ∧
      plainDigits? false r = some q := by
  fun_induction plainDigits? afterDigit s generalizing p with
  | case1 afterDigit =>
    cases hplain
    exact ⟨[], [], [], [], rfl, rfl, spellsRun_nil afterDigit, stops_nil, rfl⟩
  | case2 afterDigit r hnext ih =>
    rw [Bool.and_eq_true] at hnext
    obtain ⟨rfl, hnext⟩ := hnext
    obtain ⟨w, ds, r', q, rfl, hp, hw, hr, hq⟩ := ih hplain
    refine ⟨'_' :: w, ds, r', q, rfl, hp, fun c d hc => ?_, hr, hq⟩
    rcases hw with ⟨rfl, -⟩ | hw
    · -- an underscore stands before a digit only
      obtain ⟨c', hc', hdecimal⟩ := (Option.any_eq_true _ _).1 hnext
      rw [isDecimal, (hr c' hc').1] at hdecimal
      cases hdecimal
    · exact .spaced hc hw
  | case3 => cases hplain
  | case4 afterDigit c r hne d hc ih =>
    obtain ⟨p', hp', rfl⟩ := Option.map_eq_some_iff.1 hplain
    obtain ⟨w, ds, r', q, rfl, rfl, hw, hr, hq⟩ := ih hp'
    refine ⟨c :: w, d :: ds, r', q, rfl, rfl, ?_, hr, hq⟩
    cases afterDigit with
    | false => exact .inr (hw c d hc)
    | true => exact fun c' d' hc' => .next hc' (hw c d hc)
  | case5 afterDigit c r hne hc ih =>
    refine ⟨[], [], c :: r, p, rfl, rfl, spellsRun_nil afterDigit, fun c' hc' => ?_, ?_⟩
    · cases hc'
      exact ⟨hc, hne⟩
    · rw [plainDigits?_of_not_decimal ⟨hc, hne⟩]
      exact hplain

theorem of_plainDigits?_cons {p : List Char} (hplain : plainDigits? false (c :: s) = some p) :
    (∃ d q, decimalValue? c = some d ∧ p = asciiDigit d :: q ∧ plainDigits? true s = some q) ∨
      decimalValue? c = none ∧ ∃ q, p = c :: q ∧ plainDigits? false s = some q := by
  by_cases hunderscore : c = '_'
  · rw [plainDigits?, if_pos hunderscore] at hplain
    exact nomatch hplain
  cases hc : decimalValue? c with
  | some d =>
    rw [plainDigits?_of_decimal hc] at hplain
    obtain ⟨q, hq, rfl⟩ := Option.map_eq_some_iff.1 hplain
    exact .inl ⟨d, q, rfl, rfl, hq⟩
  | none =>
    rw [plainDigits?_of_not_decimal ⟨hc, hunderscore⟩] at hplain
    obtain ⟨q, hq, rfl⟩ := Option.map_eq_some_iff.1 hplain
    exact .inr ⟨rfl, q, rfl, hq⟩

theorem eq_nil_of_plainDigits? (hplain : plainDigits? false s = some []) : s = [] := by
  cases s with
  | nil => rfl
  | cons c s =>
    obtain ⟨_, _, _, hcons, _⟩ | ⟨_, _, hcons, _⟩ := of_plainDigits?_cons hplain
    · exact nomatch hcons
    · exact nomatch hcons

/-- A character that is no digit is written as it stands. -/
theorem of_plainDigits?_eq_cons {p : List Char} (hc : c.isDigit = false)
    (hplain : plainDigits? false s = some (c :: p)) :
    ∃ r, s = c :: r ∧ plainDigits? false r = some p := by
  cases s with
  | nil => exact nomatch hplain
  | cons c' r =>
    obtain ⟨d, q, hvalue, hcons, -⟩ | ⟨-, q, hcons, hq⟩ := of_plainDigits?_cons hplain
    · have hdigit := isDigit_asciiDigit (decimalValue?_lt hvalue)
      rw [← (List.cons.inj hcons).1, hc] at hdigit
      exact nomatch hdigit
    · cases hcons
      exact ⟨r, rfl, hq⟩

theorem isDigit_of_decimalValue?_eq_none (hc : decimalValue? c = none) : c.isDigit = false := by
  by_contra hdigit
  rw [Bool.not_eq_false] at hdigit
  exact nomatch hc.symm.trans (decimalValue?_of_isDigit hdigit)

/-- Where no digit follows, none is written. -/
theorem Stops.head?_plainDigits? {p : List Char} (hs : Stops s)
    (hplain : plainDigits? false s = some p) : ∀ c ∈ p.head?, c.isDigit = false := by
  cases s with
  | nil =>
    cases hplain
    exact fun _ hc => nomatch hc
  | cons c s =>
    have hc := (hs c rfl).1
    obtain ⟨d, _, hvalue, -, -⟩ | ⟨-, q, rfl, -⟩ := of_plainDigits?_cons hplain
    · exact nomatch hc.symm.trans hvalue
    · intro c' hc'
      cases hc'
      exact isDigit_of_decimalValue?_eq_none hc

theorem MaySpellDigits.lt (hs : MaySpellDigits s ds) : ∀ d ∈ ds, d < 10 := by
  rcases hs with ⟨-, rfl⟩ | hs
  · exact fun _ hd => nomatch hd
  · exact hs.lt

/-- Digits that may be left out are written plainly before what goes on otherwise. -/
theorem MaySpellDigits.plainDigits?_append {q : List Char} (hs : MaySpellDigits s ds)
    (ht : ∀ afterDigit, plainDigits? afterDigit t = some q) :
    plainDigits? false (s ++ t) = some (ds.map asciiDigit ++ q) := by
  rcases hs with ⟨rfl, rfl⟩ | hs
  · exact ht false
  · rw [hs.plainDigits?_append, ht]
    rfl

theorem takeWhile_map_asciiDigit_append {q : List Char} (hds : ∀ d ∈ ds, d < 10)
    (hq : ∀ c ∈ q.head?, c.isDigit = false) :
    (ds.map asciiDigit ++ q).takeWhile Char.isDigit = ds.map asciiDigit := by
  rw [List.takeWhile_append_of_pos (isDigit_of_mem_map_asciiDigit hds),
    Scan.takeWhile_eq_nil_of_head? hq, List.append_nil]

theorem dropWhile_map_asciiDigit_append {q : List Char} (hds : ∀ d ∈ ds, d < 10)
    (hq : ∀ c ∈ q.head?, c.isDigit = false) :
    (ds.map asciiDigit ++ q).dropWhile Char.isDigit = q := by
  rw [List.dropWhile_append_of_pos (isDigit_of_mem_map_asciiDigit hds),
    Scan.dropWhile_eq_self_of_head? hq]

/-- The digits at the front of what is written plainly. -/
theorem exists_run_takeWhile {p : List Char} (hplain : plainDigits? false s = some p) :
    ∃ w ds r, s = w ++ r ∧ MaySpellDigits w ds ∧
      p.takeWhile Char.isDigit = ds.map asciiDigit ∧
      plainDigits? false r = some (p.dropWhile Char.isDigit) := by
  obtain ⟨w, ds, r, q, hs, rfl, hw, hr, hq⟩ := exists_run_of_plainDigits? hplain
  have hw : MaySpellDigits w ds := hw
  have hhead := hr.head?_plainDigits? hq
  refine ⟨w, ds, r, hs, hw, takeWhile_map_asciiDigit_append hw.lt hhead, ?_⟩
  rw [dropWhile_map_asciiDigit_append hw.lt hhead]
  exact hq

theorem exists_digits_of_forall {p : List Char} (hplain : plainDigits? false s = some p)
    (hne : p ≠ []) (hp : ∀ c ∈ p, c.isDigit = true) :
    ∃ ds, SpellsDigits s ds ∧ p = ds.map asciiDigit := by
  obtain ⟨w, ds, r, rfl, hw, hrun, hrest⟩ := exists_run_takeWhile hplain
  rw [List.takeWhile_eq_self_iff.2 hp] at hrun
  rw [List.dropWhile_eq_nil_iff.2 hp] at hrest
  rw [eq_nil_of_plainDigits? hrest, List.append_nil]
  rcases hw with ⟨-, rfl⟩ | hw
  · exact absurd hrun hne
  · exact ⟨ds, hw, hrun⟩

theorem SpellsSign.exists_of_plainDigits? {p : List Char} (hsign : SpellsSign sign negative)
    (hplain : plainDigits? false s = some (sign ++ p)) :
    ∃ r, s = sign ++ r ∧ plainDigits? false r = some p := by
  cases hsign with
  | absent => exact ⟨s, rfl, hplain⟩
  | plus => exact of_plainDigits?_eq_cons (by decide) hplain
  | minus => exact of_plainDigits?_eq_cons (by decide) hplain

/-! ## Powers of ten -/

theorem splitSign_map_asciiDigit (hsign : SpellsSign sign negative) (hds : ∀ d ∈ ds, d < 10) :
    splitSign (sign ++ ds.map asciiDigit) = (negative, ds.map asciiDigit) := by
  refine splitSign_append hsign fun c hc => ?_
  have hdigit := isDigit_of_mem_map_asciiDigit hds c (List.mem_of_mem_head? hc)
  exact not_sign_of_decimalValue? (decimalValue?_of_isDigit hdigit)

/-- A power of ten is written plainly behind digits and elsewhere, and is read. -/
theorem SpellsPower.exponent?_eq {power : Int} (ht : SpellsPower t power) :
    ∃ q, (∀ afterDigit, plainDigits? afterDigit t = some q) ∧ exponent? q = some power ∧
      ∀ c ∈ q.head?, c = 'e' ∨ c = 'E' := by
  cases ht with
  | absent => exact ⟨[], fun _ => rfl, rfl, fun _ hc => nomatch hc⟩
  | @marked mark sign s negative ds hmark hsign hs =>
    have hletter : decimalValue? mark = none ∧ mark ≠ '_' := by
      rcases hmark with rfl | rfl
      · decide
      · decide
    have hplain : plainDigits? false (sign ++ s) = some (sign ++ ds.map asciiDigit) := by
      have hdigits := hs.plainDigits?_append false []
      rw [List.append_nil] at hdigits
      refine hsign.plainDigits?_append (hdigits.trans ?_)
      rw [plainDigits?, Option.map_some, List.append_nil]
    refine ⟨mark :: (sign ++ ds.map asciiDigit), fun afterDigit => ?_, ?_, fun c hc => ?_⟩
    · rw [plainDigits?_of_not_decimal hletter, hplain]
      rfl
    · have hne : (ds.map asciiDigit).isEmpty = false := by
        cases hs <;> rfl
      have hall : (ds.map asciiDigit).all Char.isDigit = true :=
        List.all_eq_true.2 (isDigit_of_mem_map_asciiDigit hs.lt)
      rw [exponent?, if_pos (by simpa using hmark), splitSign_map_asciiDigit hsign hs.lt]
      dsimp only
      rw [hne, hall, ofAsciiDigits_map_asciiDigit hs.lt]
      rfl
    · cases hc
      exact hmark

theorem spellsPower_of_exponent? {q : List Char} {power : Int}
    (hplain : plainDigits? false t = some q) (hq : exponent? q = some power) :
    SpellsPower t power := by
  cases q with
  | nil =>
    cases hq
    rw [eq_nil_of_plainDigits? hplain]
    exact .absent
  | cons mark q =>
    rw [exponent?] at hq
    split at hq
    · next hmark =>
      have hmark : mark = 'e' ∨ mark = 'E' := by simpa using hmark
      have hletter : mark.isDigit = false := by
        rcases hmark with rfl | rfl <;> rfl
      obtain ⟨r, rfl, hr⟩ := of_plainDigits?_eq_cons hletter hplain
      obtain ⟨sign, hsign, hsplit⟩ := splitSign_spells q
      generalize splitSign q = parts at hq hsign hsplit
      obtain ⟨negative, digits⟩ := parts
      dsimp only at hq hsign hsplit
      split at hq
      · next hdigits =>
        simp only [Bool.and_eq_true, Bool.not_eq_true', List.isEmpty_eq_false_iff,
          List.all_eq_true] at hdigits
        rw [hsplit] at hr
        obtain ⟨s, rfl, hs⟩ := hsign.exists_of_plainDigits? hr
        obtain ⟨ds, hds, rfl⟩ := exists_digits_of_forall hs hdigits.1 hdigits.2
        rw [ofAsciiDigits_map_asciiDigit hds.lt] at hq
        cases hq
        exact .marked hmark hsign hds
      · exact nomatch hq
    · exact nomatch hq

/-! ## Decimals -/

theorem guard_bind_map {α β : Type} (b : Bool) (x : Option α) (f : α → β) :
    (do guard (b = true); return f (← x)) = if b then x.map f else none := by
  cases b with
  | false => rfl
  | true => cases x <;> rfl

section

variable {p r : List Char} {places : Nat} {power : Int}

theorem decimal?_of_point (hrest : p.dropWhile Char.isDigit = '.' :: r) :
    decimal? negative p =
      if !((p.takeWhile Char.isDigit).isEmpty && (r.takeWhile Char.isDigit).isEmpty) then
        (exponent? (r.dropWhile Char.isDigit)).map fun e =>
          .ofDecimal negative
            (ofAsciiDigits (p.takeWhile Char.isDigit ++ r.takeWhile Char.isDigit))
            (e - (r.takeWhile Char.isDigit).length)
      else none := by
  rw [← guard_bind_map, decimal?, hrest]
  rfl

theorem decimal?_of_no_point (hrest : ∀ c ∈ (p.dropWhile Char.isDigit).head?, c ≠ '.') :
    decimal? negative p =
      if !(p.takeWhile Char.isDigit).isEmpty then
        (exponent? (p.dropWhile Char.isDigit)).map fun e =>
          .ofDecimal negative (ofAsciiDigits (p.takeWhile Char.isDigit)) (e - (0 : Nat))
      else none := by
  rw [← guard_bind_map, decimal?]
  dsimp only
  split
  · next r hr =>
    rw [hr] at hrest
    exact absurd rfl (hrest '.' rfl)
  · rw [List.append_nil, List.isEmpty_nil, Bool.and_true]
    rfl

/-- What is spelled as a decimal is written plainly and read. -/
theorem SpellsMantissa.decimal?_eq (hs : SpellsMantissa s ds places) (ht : SpellsPower t power) :
    ∃ p, plainDigits? false (s ++ t) = some p ∧ (∃ c r, p = c :: r ∧ (c.isDigit = true ∨ c = '.')) ∧
      ∀ negative, decimal? negative p =
        some (.ofDecimal negative (ofDigitValues ds) (power - places)) := by
  obtain ⟨q, hq, hpower, hmark⟩ := ht.exponent?_eq
  have hstop : ∀ c ∈ q.head?, c.isDigit = false ∧ c ≠ '.' := by
    intro c hc
    rcases hmark c hc with rfl | rfl
    · decide
    · decide
  cases hs with
  | whole hs =>
    have hdrop := dropWhile_map_asciiDigit_append hs.lt fun c hc => (hstop c hc).1
    refine ⟨ds.map asciiDigit ++ q, ?_, ?_, fun negative => ?_⟩
    · exact MaySpellDigits.plainDigits?_append (.inr hs) hq
    · obtain ⟨d, ds, rfl⟩ := List.exists_cons_of_ne_nil hs.ne_nil
      exact ⟨_, _, rfl, .inl (isDigit_asciiDigit (hs.lt d List.mem_cons_self))⟩
    · rw [decimal?_of_no_point (by rw [hdrop]; exact fun c hc => (hstop c hc).2), hdrop,
        takeWhile_map_asciiDigit_append hs.lt fun c hc => (hstop c hc).1, hpower,
        ofAsciiDigits_map_asciiDigit hs.lt, List.isEmpty_map, List.isEmpty_eq_false_iff.2 hs.ne_nil]
      rfl
  | @point s f ds es hs hf hne =>
    have hplain : ∀ afterDigit, plainDigits? afterDigit ('.' :: (f ++ t)) =
        some ('.' :: (es.map asciiDigit ++ q)) := by
      intro afterDigit
      rw [plainDigits?_of_not_decimal (by decide), hf.plainDigits?_append hq]
      rfl
    have hpoint : ∀ c ∈ ('.' :: (es.map asciiDigit ++ q)).head?, c.isDigit = false := by
      intro c hc
      cases hc
      rfl
    refine ⟨ds.map asciiDigit ++ '.' :: (es.map asciiDigit ++ q), ?_, ?_, fun negative => ?_⟩
    · rw [List.append_assoc]
      exact hs.plainDigits?_append hplain
    · cases ds with
      | nil => exact ⟨_, _, rfl, .inr rfl⟩
      | cons d ds =>
        exact ⟨_, _, rfl, .inl (isDigit_asciiDigit (hs.lt d List.mem_cons_self))⟩
    · have hall : ∀ d ∈ ds ++ es, d < 10 := List.forall_mem_append.2 ⟨hs.lt, hf.lt⟩
      have hsome : (ds.isEmpty && es.isEmpty) = false := by simpa using hne
      rw [decimal?_of_point (dropWhile_map_asciiDigit_append hs.lt hpoint),
        takeWhile_map_asciiDigit_append hs.lt hpoint,
        takeWhile_map_asciiDigit_append hf.lt fun c hc => (hstop c hc).1,
        dropWhile_map_asciiDigit_append hf.lt fun c hc => (hstop c hc).1, hpower, ← List.map_append,
        ofAsciiDigits_map_asciiDigit hall, List.isEmpty_map, List.isEmpty_map, hsome,
        List.length_map]
      rfl

/-- What is read as a decimal is spelled as one. -/
theorem spells_of_decimal? {x : Binary64} (hplain : plainDigits? false s = some p)
    (hx : decimal? negative p = some x) :
    ∃ m t ds places power, s = m ++ t ∧ SpellsMantissa m ds places ∧ SpellsPower t power ∧
      x = .ofDecimal negative (ofDigitValues ds) (power - places) := by
  obtain ⟨w, ds, r, rfl, hw, hwhole, hrest⟩ := exists_run_takeWhile hplain
  by_cases hpoint : ∀ c ∈ (p.dropWhile Char.isDigit).head?, c ≠ '.'
  · rw [decimal?_of_no_point hpoint, hwhole, ofAsciiDigits_map_asciiDigit hw.lt] at hx
    split at hx
    · next hne =>
      obtain ⟨power, hpower, rfl⟩ := Option.map_eq_some_iff.1 hx
      rcases hw with ⟨-, rfl⟩ | hw
      · exact nomatch hne
      · exact ⟨w, r, ds, 0, power, rfl, .whole hw, spellsPower_of_exponent? hrest hpower, rfl⟩
    · exact nomatch hx
  · obtain ⟨q, hq⟩ : ∃ q, p.dropWhile Char.isDigit = '.' :: q := by
      generalize p.dropWhile Char.isDigit = q at hpoint
      cases q with
      | nil => exact absurd (fun _ hc => nomatch hc) hpoint
      | cons c q =>
        refine ⟨q, congrArg (· :: q) ?_⟩
        by_contra hc
        exact hpoint fun c' hc' => Option.some.inj hc' ▸ hc
    rw [hq] at hrest
    obtain ⟨r, rfl, hr⟩ := of_plainDigits?_eq_cons (by decide) hrest
    obtain ⟨f, es, t, rfl, hf, hfraction, ht⟩ := exists_run_takeWhile hr
    have hall : ∀ d ∈ ds ++ es, d < 10 := List.forall_mem_append.2 ⟨hw.lt, hf.lt⟩
    rw [decimal?_of_point hq, hwhole, hfraction, ← List.map_append,
      ofAsciiDigits_map_asciiDigit hall, List.length_map, List.isEmpty_map, List.isEmpty_map]
      at hx
    split at hx
    · next hne =>
      obtain ⟨power, hpower, rfl⟩ := Option.map_eq_some_iff.1 hx
      have hne : ds ++ es ≠ [] := by
        intro hnil
        obtain ⟨rfl, rfl⟩ := List.append_eq_nil_iff.1 hnil
        exact nomatch hne
      exact ⟨w ++ '.' :: f, t, ds ++ es, es.length, power, by simp, .point hw hf hne,
        spellsPower_of_exponent? ht hpower, rfl⟩
    · exact nomatch hx

end

/-! ## Words -/

section

variable {w word p : List Char}

/-- A text of characters that do not occur in decimals but for the marks of their powers. -/
def IsWord (word : List Char) : Prop :=
  ∀ c ∈ word, decimalValue? c = none ∧ c ∉ ['_', '.', '-', '+']

instance (word : List Char) : Decidable (IsWord word) :=
  inferInstanceAs (Decidable (∀ c ∈ word, _))

theorem isWord_inf : IsWord "inf".toList := by decide

theorem isWord_infinity : IsWord "infinity".toList := by decide

theorem isWord_nan : IsWord "nan".toList := by decide

/-- Decimal digits are their own lower-case forms. -/
theorem toLower_of_decimalValue? (hc : decimalValue? c = some d) : c.toLower = c := by
  refine toLower_eq_self ?_
  simp only [decimalValue?] at hc
  split at hc
  · split at hc
    · omega
    · cases hc
  · omega

theorem IsWord.of_toLower (hword : IsWord word) (hw : w.map Char.toLower = word) : IsWord w := by
  subst hw
  intro c hc
  obtain ⟨hvalue, hmark⟩ := hword c.toLower (List.mem_map_of_mem hc)
  constructor
  · cases hdecimal : decimalValue? c with
    | none => rfl
    | some d =>
      rw [toLower_of_decimalValue? hdecimal, hdecimal] at hvalue
      exact nomatch hvalue
  · have hself : ∀ m ∈ ['_', '.', '-', '+'], m.toLower = m := by decide
    exact fun hmem => hmark ((hself c hmem).symm ▸ hmem)

theorem IsWord.plainDigits?_eq (hw : IsWord w) : plainDigits? false w = some w := by
  induction w with
  | nil => rfl
  | cons c w ih =>
    obtain ⟨hc, hw⟩ := List.forall_mem_cons.1 hw
    rw [plainDigits?_of_not_decimal ⟨hc.1, fun h => hc.2 (h ▸ List.mem_cons_self)⟩, ih hw]
    rfl

theorem IsWord.eq_of_plainDigits? (hp : IsWord p) (hplain : plainDigits? false s = some p) :
    s = p := by
  induction p generalizing s with
  | nil => exact eq_nil_of_plainDigits? hplain
  | cons c p ih =>
    obtain ⟨hc, hp⟩ := List.forall_mem_cons.1 hp
    obtain ⟨r, rfl, hr⟩ :=
      of_plainDigits?_eq_cons (isDigit_of_decimalValue?_eq_none hc.1) hplain
    rw [ih hp hr]

theorem IsWord.not_sign (hw : IsWord w) : ∀ c ∈ w.head?, c ≠ '-' ∧ c ≠ '+' := by
  intro c hc
  have hmark := (hw c (List.mem_of_mem_head? hc)).2
  constructor
  · rintro rfl
    exact hmark (by decide)
  · rintro rfl
    exact hmark (by decide)

/-- A word does not begin like a decimal. -/
theorem IsWord.not_decimal (hw : IsWord (c :: w)) : ¬(c.isDigit = true ∨ c = '.') := by
  obtain ⟨hvalue, hmark⟩ := hw c List.mem_cons_self
  rintro (hdigit | rfl)
  · exact nomatch hvalue.symm.trans (decimalValue?_of_isDigit hdigit)
  · exact hmark (by decide)

end

/-! ## Doubles -/

theorem readDouble?_of_plain {p r : List Char}
    (hplain : plainDigits? false (trim isPadding s) = some p)
    (hsplit : splitSign p = (negative, r)) :
    readDouble? s =
      if r.map Char.toLower = "inf".toList ∨ r.map Char.toLower = "infinity".toList then
        some (.infinite negative)
      else if r.map Char.toLower = "nan".toList then some .nan
      else decimal? negative r := by
  have hname (word : String) :
      String.ofList (r.map Char.toLower) = word ↔ r.map Char.toLower = word.toList := by
    rw [← String.toList_inj, String.toList_ofList]
  rw [readDouble?, hplain, Option.bind_eq_bind, Option.bind_some, hsplit]
  simp only [Bool.or_eq_true, decide_eq_true_eq, hname]
  rfl

/-- What is read as a double is exactly what spells one, and it is the nearest to what is meant. -/
theorem readDouble?_eq_some_iff {x : Binary64} :
    readDouble? s = some x ↔ ∃ m, SpellsDouble (trim isPadding s) m ∧ x = m.toDouble := by
  constructor
  · intro hread
    obtain ⟨p, hplain, -⟩ := Option.bind_eq_some_iff.1 hread
    obtain ⟨⟨negative, r⟩, hsplit⟩ : ∃ parts, splitSign p = parts := ⟨_, rfl⟩
    obtain ⟨sign, hsign, hp⟩ := splitSign_spells p
    rw [readDouble?_of_plain hplain hsplit] at hread
    rw [hsplit] at hsign hp
    dsimp only at hsign hp
    rw [hp] at hplain
    obtain ⟨t, ht, hr⟩ := hsign.exists_of_plainDigits? hplain
    rw [ht]
    split at hread
    · next hword =>
      cases hread
      have hr' : IsWord r := by
        rcases hword with hword | hword
        · exact isWord_inf.of_toLower hword
        · exact isWord_infinity.of_toLower hword
      rw [hr'.eq_of_plainDigits? hr]
      exact ⟨.infinite negative, .infinite hsign hword, rfl⟩
    split at hread
    · next hword =>
      cases hread
      rw [(isWord_nan.of_toLower hword).eq_of_plainDigits? hr]
      exact ⟨.nan, .nan hsign hword, rfl⟩
    · obtain ⟨m, t, ds, places, power, rfl, hm, ht, rfl⟩ := spells_of_decimal? hr hread
      exact ⟨_, .decimal hsign hm ht, rfl⟩
  · rintro ⟨m, hm, rfl⟩
    generalize htrim : trim isPadding s = r at hm
    cases hm with
    | nan hsign hw =>
      have hword := isWord_nan.of_toLower hw
      have hplain := hsign.plainDigits?_append hword.plainDigits?_eq
      rw [readDouble?_of_plain (htrim ▸ hplain) (splitSign_append hsign hword.not_sign), hw]
      rfl
    | @infinite sign w negative hsign hw =>
      have hword : IsWord w := by
        rcases hw with hw | hw
        · exact isWord_inf.of_toLower hw
        · exact isWord_infinity.of_toLower hw
      have hplain := hsign.plainDigits?_append hword.plainDigits?_eq
      rw [readDouble?_of_plain (htrim ▸ hplain) (splitSign_append hsign hword.not_sign), if_pos hw]
      rfl
    | decimal hsign hs ht =>
      obtain ⟨p, hp, ⟨c, r, rfl, hhead⟩, hdecimal⟩ := hs.decimal?_eq ht
      have hnotSign : c ≠ '-' ∧ c ≠ '+' := by
        rcases hhead with hdigit | rfl
        · exact not_sign_of_decimalValue? (decimalValue?_of_isDigit hdigit)
        · decide
      have hsplit := splitSign_append (s := c :: r) hsign fun c' hc' => by
        cases hc'
        exact hnotSign
      have hinf : ¬(c :: r).map Char.toLower = "inf".toList :=
        fun hw => (isWord_inf.of_toLower hw).not_decimal hhead
      have hinfinity : ¬(c :: r).map Char.toLower = "infinity".toList :=
        fun hw => (isWord_infinity.of_toLower hw).not_decimal hhead
      have hnan : ¬(c :: r).map Char.toLower = "nan".toList :=
        fun hw => (isWord_nan.of_toLower hw).not_decimal hhead
      rw [readDouble?_of_plain (htrim ▸ hsign.plainDigits?_append hp) hsplit,
        if_neg (not_or.2 ⟨hinf, hinfinity⟩), if_neg hnan]
      exact hdecimal _

end HostReport.Numeral
