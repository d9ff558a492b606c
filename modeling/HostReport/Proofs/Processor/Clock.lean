import HostReport.Processor.Listing
import Mathlib.Data.List.Basic

/-!
# The clock of a processor and its unit

A listing tells the clock of a processor under one of three keys, and each key names a unit.  The
clock is that of the first entry for one of them that has a value.  Its unit is carried along by
itself: the two keys with a unit of their own set it wherever they stand before that entry, whether
they have a value or not, and the plain key leaves it alone (`foldl_clockStep_of_silent`).  So the
unit of a clock under the plain key may be one that was set by an entry without a value, and in no
other case do a clock and its unit come from two entries (`clock_of_text`).
-/

namespace HostReport.ProcessorListing

/-! ## Entries for clocks -/

/-- The keys of clocks, and the unit that each of them names. -/
def clockUnits : List (String × String) :=
  [("CPU MHz", "MHz"), ("CPU static MHz", "static MHz"), ("CPU dynamic MHz", "dynamic MHz")]

/-- The unit that the key of an entry for a clock names. -/
def namedUnit? (e : String × String) : Option String := clockUnits.lookup e.1

/-- Whether an entry tells a clock. -/
def TellsClock (e : String × String) : Prop := namedUnit? e ≠ none ∧ e.2 ≠ ""

instance : DecidablePred TellsClock :=
  fun e => inferInstanceAs (Decidable (namedUnit? e ≠ none ∧ e.2 ≠ ""))

/-- The unit that an entry sets: the plain key sets none. -/
def ownUnit? (e : String × String) : Option String :=
  if e.1 = "CPU MHz" then none else namedUnit? e

/-- The unit behind some entries, if it was this one before them. -/
def unitBehind (unit : String) (es : List (String × String)) : String :=
  (es.filterMap ownUnit?).getLast?.getD unit

/-- An entry is for one of the three clocks or for none. -/
theorem namedUnit?_cases (e : String × String) :
    e.1 = "CPU MHz" ∧ namedUnit? e = some "MHz" ∨
      e.1 = "CPU static MHz" ∧ namedUnit? e = some "static MHz" ∨
      e.1 = "CPU dynamic MHz" ∧ namedUnit? e = some "dynamic MHz" ∨
      (e.1 ≠ "CPU MHz" ∧ e.1 ≠ "CPU static MHz" ∧ e.1 ≠ "CPU dynamic MHz") ∧
        namedUnit? e = none := by
  rw [namedUnit?]
  by_cases hplain : e.1 = "CPU MHz"
  · exact .inl ⟨hplain, by rw [hplain]; rfl⟩
  by_cases hstatic : e.1 = "CPU static MHz"
  · exact .inr (.inl ⟨hstatic, by rw [hstatic]; rfl⟩)
  by_cases hdynamic : e.1 = "CPU dynamic MHz"
  · exact .inr (.inr (.inl ⟨hdynamic, by rw [hdynamic]; rfl⟩))
  refine .inr (.inr (.inr ⟨⟨hplain, hstatic, hdynamic⟩, ?_⟩))
  rw [clockUnits, List.lookup_cons, beq_false_of_ne hplain, List.lookup_cons,
    beq_false_of_ne hstatic, List.lookup_cons, beq_false_of_ne hdynamic, List.lookup_nil]

/-- No entry sets the unit of the plain key. -/
theorem ownUnit?_ne (e : String × String) : ownUnit? e ≠ some "MHz" := by
  rw [ownUnit?]
  obtain ⟨hkey, hunit⟩ | ⟨hkey, hunit⟩ | ⟨hkey, hunit⟩ | ⟨-, hunit⟩ := namedUnit?_cases e
  · rw [if_pos hkey]
    exact nofun
  · rw [hkey, hunit]
    decide
  · rw [hkey, hunit]
    decide
  · rw [hunit, ite_self]
    exact nofun

/-! ## Following the entries -/

/-- A clock that is known stays. -/
theorem clockStep_of_known {clock : String × String} (hclock : clock.1 ≠ "")
    (e : String × String) : clockStep clock e = clock := by
  rw [clockStep, if_pos (by simpa using hclock)]

/-- While no clock is known, an entry for a clock gives its value, and every entry its unit. -/
theorem clockStep_of_unknown (unit : String) (e : String × String) :
    clockStep ("", unit) e =
      (if namedUnit? e = none then "" else e.2, (ownUnit? e).getD unit) := by
  have hunknown : ¬(!("" : String).isEmpty) = true := by decide
  simp only [clockStep, ownUnit?, if_neg hunknown]
  obtain ⟨hkey, hunit⟩ | ⟨hkey, hunit⟩ | ⟨hkey, hunit⟩ | ⟨⟨hplain, hstatic, hdynamic⟩, hunit⟩ :=
    namedUnit?_cases e
  · simp [hkey, hunit]
  · simp [hkey, hunit]
  · simp [hkey, hunit]
  · simp [hplain, hstatic, hdynamic, hunit]

section

variable {e : String × String} {es before : List (String × String)}

theorem foldl_clockStep_of_known {clock : String × String} (hclock : clock.1 ≠ "") :
    es.foldl clockStep clock = clock := by
  induction es with
  | nil => rfl
  | cons e es ih => rw [List.foldl_cons, clockStep_of_known hclock, ih]

theorem unitBehind_cons (unit : String) :
    unitBehind unit (e :: es) = unitBehind ((ownUnit? e).getD unit) es := by
  rw [unitBehind, unitBehind]
  cases hown : ownUnit? e with
  | none => rw [List.filterMap_cons_none hown, Option.getD_none]
  | some own =>
    rw [List.filterMap_cons_some hown, List.getLast?_cons, Option.getD_some, Option.getD_some]

theorem not_tellsClock_iff : ¬TellsClock e ↔ (if namedUnit? e = none then "" else e.2) = "" := by
  rw [TellsClock, not_and_not_right]
  by_cases hnone : namedUnit? e = none
  · simp [hnone]
  · simp [hnone]

/-- Entries that tell no clock only set the unit. -/
theorem foldl_clockStep_of_silent (hes : ∀ e ∈ es, ¬TellsClock e) (unit : String) :
    es.foldl clockStep ("", unit) = ("", unitBehind unit es) := by
  induction es generalizing unit with
  | nil => rfl
  | cons e es ih =>
    obtain ⟨he, hes⟩ := List.forall_mem_cons.1 hes
    rw [List.foldl_cons, clockStep_of_unknown, not_tellsClock_iff.1 he, ih hes, unitBehind_cons]

/-- The first entry that tells a clock decides. -/
theorem foldl_clockStep_of_tells (hbefore : ∀ b ∈ before, ¬TellsClock b) (he : TellsClock e)
    (unit : String) :
    (before ++ e :: es).foldl clockStep ("", unit) =
      (e.2, (ownUnit? e).getD (unitBehind unit before)) := by
  rw [List.foldl_append, foldl_clockStep_of_silent hbefore, List.foldl_cons, clockStep_of_unknown,
    if_neg he.1]
  exact foldl_clockStep_of_known he.2

/-- The unit is still that of the plain key exactly if no entry has set another. -/
theorem unitBehind_eq_iff : unitBehind "MHz" es = "MHz" ↔ ∀ e ∈ es, ownUnit? e = none := by
  rw [unitBehind, ← List.filterMap_eq_nil_iff]
  cases hlast : (es.filterMap ownUnit?).getLast? with
  | none => exact iff_of_true rfl (List.getLast?_eq_none_iff.1 hlast)
  | some own =>
    obtain ⟨e, -, hown⟩ := List.mem_filterMap.1 (List.mem_of_getLast? hlast)
    refine iff_of_false (fun h => ownUnit?_ne e (hown.trans (congrArg some h))) fun h => ?_
    rw [h] at hlast
    exact nomatch hlast

end

/-! ## The clock of a listing -/

/-- The first entry of a listing that tells a clock. -/
def firstClock? (text : String) : Option (String × String) :=
  (entriesOf ':' text).find? fun e => TellsClock e

/-- The entries before it, all of them if there is none. -/
def entriesBeforeClock (text : String) : List (String × String) :=
  (entriesOf ':' text).takeWhile fun e => ¬TellsClock e

theorem tellsClock_of_firstClock? {text : String} {e : String × String}
    (he : firstClock? text = some e) : TellsClock e := by
  simpa using List.find?_some he

theorem clock_of_firstClock?_eq_none {text : String} (hnone : firstClock? text = none) :
    (ofText text).clock = "" := by
  have hsilent : ∀ e ∈ entriesOf ':' text, ¬TellsClock e := by
    simpa [firstClock?] using hnone
  exact congrArg Prod.fst (foldl_clockStep_of_silent hsilent "MHz")

theorem clock_of_firstClock?_eq_some {text : String} {e : String × String}
    (he : firstClock? text = some e) :
    (ofText text).clock = e.2 ∧
      (ofText text).clockUnit =
        (ownUnit? e).getD (unitBehind "MHz" (entriesBeforeClock text)) := by
  obtain ⟨-, before, behind, hentries, hbefore⟩ := List.find?_eq_some_iff_append.1 he
  have htells := tellsClock_of_firstClock? he
  have hbefore : ∀ b ∈ before, ¬TellsClock b := by simpa using hbefore
  have hfront : entriesBeforeClock text = before := by
    rw [entriesBeforeClock, hentries, List.takeWhile_append_of_pos (by simpa using hbefore),
      List.takeWhile_cons_of_neg (by simpa using htells), List.append_nil]
  have hfold : (entriesOf ':' text).foldl clockStep ("", "MHz") =
      (e.2, (ownUnit? e).getD (unitBehind "MHz" before)) := by
    rw [hentries, foldl_clockStep_of_tells hbefore htells]
  rw [hfront]
  exact ⟨congrArg Prod.fst hfold, congrArg Prod.snd hfold⟩

/-- The clock is that of the first entry that tells one.  The unit is the one that its key names,
except where its key is the plain one and an entry before it has set another unit. -/
theorem clock_of_text (text : String) :
    ((ofText text).clock ≠ "" ↔ ∃ e, firstClock? text = some e) ∧
      ∀ e, firstClock? text = some e →
        (ofText text).clock = e.2 ∧
        (ofText text).clockUnit =
          (ownUnit? e).getD (unitBehind "MHz" (entriesBeforeClock text)) ∧
        (namedUnit? e = some (ofText text).clockUnit ↔
          (e.1 = "CPU MHz" → ∀ b ∈ entriesBeforeClock text, ownUnit? b = none)) := by
  refine ⟨⟨fun hclock => ?_, fun ⟨e, he⟩ => ?_⟩, fun e he => ?_⟩
  · by_contra hnone
    refine hclock (clock_of_firstClock?_eq_none ?_)
    exact Option.eq_none_iff_forall_ne_some.2 fun e he => hnone ⟨e, he⟩
  · rw [(clock_of_firstClock?_eq_some he).1]
    exact (tellsClock_of_firstClock? he).2
  obtain ⟨hclock, hunit⟩ := clock_of_firstClock?_eq_some he
  refine ⟨hclock, hunit, ?_⟩
  rw [hunit, ownUnit?]
  by_cases hplain : e.1 = "CPU MHz"
  · have hnamed : namedUnit? e = some "MHz" := by
      rw [namedUnit?, hplain]
      rfl
    rw [if_pos hplain, hnamed, Option.getD_none, Option.some_inj, eq_comm, unitBehind_eq_iff]
    exact ⟨fun h _ => h, fun h => h hplain⟩
  · obtain ⟨named, hnamed⟩ := Option.ne_none_iff_exists'.1 (tellsClock_of_firstClock? he).1
    rw [if_neg hplain, hnamed, Option.getD_some]
    exact iff_of_true rfl fun h => absurd h hplain

/-- A listing in which a unit without a clock stands before a clock of another kind. -/
def staticListing : String := "CPU dynamic MHz:\nCPU static MHz: 1800\nCPU MHz: 2400\n"

theorem clock_of_text_staticListing :
    firstClock? staticListing = some ("CPU static MHz", "1800") ∧
      (ofText staticListing).clock = "1800" ∧
      namedUnit? ("CPU static MHz", "1800") = some (ofText staticListing).clockUnit := by
  have hfirst : firstClock? staticListing = some ("CPU static MHz", "1800") := by decide +kernel
  obtain ⟨hclock, -, hunit⟩ := (clock_of_text staticListing).2 _ hfirst
  exact ⟨hfirst, hclock, hunit.2 fun hplain => absurd hplain (by decide)⟩

/-- The unit of a clock may be that of another entry. -/
theorem not_clock_and_unit_of_one_entry :
    ¬∀ text : String, (ofText text).clock ≠ "" →
      ∃ e, firstClock? text = some e ∧ (ofText text).clock = e.2 ∧
        namedUnit? e = some (ofText text).clockUnit := by
  intro hall
  obtain ⟨e, hfirst, -, hunit⟩ := hall "CPU static MHz:\nCPU MHz: 2400\n" (by decide +kernel)
  have hplain : firstClock? "CPU static MHz:\nCPU MHz: 2400\n" = some ("CPU MHz", "2400") := by
    decide +kernel
  cases hplain.symm.trans hfirst
  have hstatic : (ofText "CPU static MHz:\nCPU MHz: 2400\n").clockUnit = "static MHz" := by
    decide +kernel
  rw [hstatic] at hunit
  exact absurd hunit (by decide)

end HostReport.ProcessorListing
