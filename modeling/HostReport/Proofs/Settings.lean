import HostReport.Settings
import HostReport.Proofs.Number.Duration
import HostReport.Proofs.Number.Reading

/-!
# Settings of an environment

An environment always gives settings for the two languages.  The counts keep their least values
whatever is in it, but a timeout is taken as it is read: it can be waited for unless its variable
says a number that is not finite, that is not more than zero, or that rounds to such a one.
-/

namespace HostReport

namespace Settings

open Numeral

/-! ## What the environment says -/

/-- The text in a variable, without blanks around it. -/
def variableText (environment : List (String × String)) (name : String) : List Char :=
  Text.strip (environmentText environment name).toList

/-- The timeouts of a run. -/
inductive Timeout where
  | http
  | asn
  | precheck
  | stun

namespace Timeout

/-- The variable that sets the timeout. -/
def name : Timeout → String
  | http => "HTTP_TIMEOUT"
  | asn => "ASN_TIMEOUT"
  | precheck => "PRECHECK_TIMEOUT"
  | stun => "STUN_TIMEOUT"

/-- The timeout of these settings. -/
def of (s : Settings) : Timeout → Binary64
  | http => s.httpTimeout
  | asn => s.asnTimeout
  | precheck => s.precheckTimeout
  | stun => s.stunTimeout

/-- The environment says this about the timeout. -/
def Says (t : Timeout) (environment : List (String × String)) (m : Meaning) : Prop :=
  SpellsDouble (variableText environment t.name) m

end Timeout

/-- The counts of a run. -/
inductive Count where
  | workers
  | retries

namespace Count

/-- The variable that sets the count. -/
def name : Count → String
  | workers => "MAX_WORKERS"
  | retries => "HTTP_RETRIES"

/-- The least value of the count. -/
def least : Count → Int
  | workers => 1
  | retries => 0

/-- The count of these settings. -/
def of (s : Settings) : Count → Int
  | workers => s.maxWorkers
  | retries => s.httpRetries

/-- The environment says this about the count. -/
def Says (c : Count) (environment : List (String × String)) (n : Int) : Prop :=
  SpellsInt (variableText environment c.name) n

end Count

/-- Settings that a run can be made with. -/
structure IsUsable (s : Settings) : Prop where
  counts : ∀ c : Count, c.least ≤ c.of s
  timeouts : ∀ t : Timeout, (t.of s).IsDuration

/-! ## Numbers in variables -/

section

variable (environment : List (String × String))

theorem trim_variableText (name : String) :
    Text.trim isPadding (variableText environment name) = variableText environment name :=
  Text.trim_trim (fun _ hc => (Bool.and_eq_true_iff.1 hc).1) _

/-- A number is the one that is read in the variable, and the default if none is read. -/
theorem number_eq {α : Type} {read : List Char → Option α} (hempty : read [] = none)
    (name : String) (otherwise : α) :
    number read environment name otherwise =
      (read (variableText environment name)).getD otherwise := by
  rw [number, ← variableText]
  split
  · next hnil =>
    rw [List.isEmpty_iff.1 hnil, hempty]
    rfl
  · rfl

theorem readDouble?_variableText_iff {t : Timeout} {x : Binary64} :
    readDouble? (variableText environment t.name) = some x ↔
      ∃ m, t.Says environment m ∧ x = m.toDouble := by
  rw [readDouble?_eq_some_iff, trim_variableText]
  rfl

theorem readInt?_variableText_iff {c : Count} {n : Int} :
    readInt? (variableText environment c.name) = some n ↔ c.Says environment n := by
  rw [readInt?_eq_some_iff, trim_variableText]
  rfl

theorem choose_code (language : Language) : Language.choose language.code = .ok language := by
  cases language <;> decide +kernel

/-- An environment gives settings for either language: each number is the one that is read in its
variable or the standard one, and counts have a least value. -/
theorem exists_ofEnvironment (language : Language) (isLogging : Bool) :
    ∃ settings, ofEnvironment environment language.code isLogging = .ok settings ∧
      settings.language = language ∧
      (∀ c : Count, c.of settings =
        max c.least ((readInt? (variableText environment c.name)).getD (c.of {}))) ∧
      ∀ t : Timeout, t.of settings =
        (readDouble? (variableText environment t.name)).getD (t.of {}) := by
  refine ⟨_, by rw [ofEnvironment, choose_code]; rfl, rfl, fun c => ?_, fun t => ?_⟩
  · cases c with
    | workers => exact congrArg (max 1) (number_eq environment rfl "MAX_WORKERS" _)
    | retries => exact congrArg (max 0) (number_eq environment rfl "HTTP_RETRIES" _)
  · cases t with
    | http => exact number_eq environment rfl "HTTP_TIMEOUT" _
    | asn => exact number_eq environment rfl "ASN_TIMEOUT" _
    | precheck => exact number_eq environment rfl "PRECHECK_TIMEOUT" _
    | stun => exact number_eq environment rfl "STUN_TIMEOUT" _

/-- The standard timeouts can be waited for. -/
theorem isDuration_standard (t : Timeout) : (t.of {}).IsDuration := by
  cases t <;> decide +kernel

theorem least_le_standard (c : Count) : c.least ≤ c.of {} := by
  cases c <;> decide

theorem readDouble?_eq_none {t : Timeout} (hnone : ¬∃ m, t.Says environment m) :
    readDouble? (variableText environment t.name) = none := by
  refine Option.eq_none_iff_forall_ne_some.2 fun x hx => hnone ?_
  obtain ⟨m, hm, -⟩ := (readDouble?_variableText_iff environment).1 hx
  exact ⟨m, hm⟩

theorem readInt?_eq_none {c : Count} (hnone : ¬∃ n, c.Says environment n) :
    readInt? (variableText environment c.name) = none :=
  Option.eq_none_iff_forall_ne_some.2
    fun n hn => hnone ⟨n, (readInt?_variableText_iff environment).1 hn⟩

/-- The timeout that is in force can be waited for exactly if none is said that cannot. -/
theorem isDuration_getD_iff (t : Timeout) :
    ((readDouble? (variableText environment t.name)).getD (t.of {})).IsDuration ↔
      ∀ m, t.Says environment m → m.IsDuration := by
  by_cases hsome : ∃ m, t.Says environment m
  · obtain ⟨m, hm⟩ := hsome
    have hread : readDouble? (variableText environment t.name) = some m.toDouble :=
      (readDouble?_variableText_iff environment).2 ⟨m, hm, rfl⟩
    rw [hread, Option.getD_some, Meaning.isDuration_toDouble_iff]
    refine ⟨fun hduration m' hm' => ?_, fun hall => hall m hm⟩
    -- two meanings of one text are rounded alike
    have hread' : readDouble? (variableText environment t.name) = some m'.toDouble :=
      (readDouble?_variableText_iff environment).2 ⟨m', hm', rfl⟩
    rw [← Meaning.isDuration_toDouble_iff, ← Option.some.inj (hread.symm.trans hread'),
      Meaning.isDuration_toDouble_iff]
    exact hduration
  · rw [readDouble?_eq_none environment hsome, Option.getD_none]
    exact iff_of_true (isDuration_standard t) fun m hm => absurd ⟨m, hm⟩ hsome

end

/-! ## Usable settings -/

/-- An environment always gives settings, with counts not below their least values.  They are
usable exactly if no variable says a timeout that cannot be waited for.  A number that a variable
says is taken as it is, up to the least value and to rounding; a variable that says none leaves the
standard one. -/
theorem ofEnvironment_isUsable_iff (environment : List (String × String)) (language : Language)
    (isLogging : Bool) :
    ∃ settings, ofEnvironment environment language.code isLogging = .ok settings ∧
      settings.language = language ∧
      (settings.IsUsable ↔ ∀ (t : Timeout) (m : Meaning), t.Says environment m → m.IsDuration) ∧
      (∀ c : Count, c.least ≤ c.of settings ∧
        (∀ n, c.Says environment n → c.of settings = max c.least n) ∧
        ((¬∃ n, c.Says environment n) → c.of settings = c.of {})) ∧
      ∀ t : Timeout,
        (∀ m, t.Says environment m → t.of settings = m.toDouble) ∧
        ((¬∃ m, t.Says environment m) → t.of settings = t.of {}) := by
  obtain ⟨settings, hsettings, hlanguage, hcounts, htimeouts⟩ :=
    exists_ofEnvironment environment language isLogging
  have hleast (c : Count) : c.least ≤ c.of settings := by
    rw [hcounts]
    exact le_max_left _ _
  have husable : settings.IsUsable ↔
      ∀ (t : Timeout) (m : Meaning), t.Says environment m → m.IsDuration := by
    refine ⟨fun h t => ?_, fun h => ⟨hleast, fun t => ?_⟩⟩
    · rw [← isDuration_getD_iff, ← htimeouts]
      exact h.timeouts t
    · rw [htimeouts, isDuration_getD_iff]
      exact h t
  refine ⟨settings, hsettings, hlanguage, husable, fun c => ⟨hleast c, fun n hn => ?_, fun h => ?_⟩,
    fun t => ⟨fun m hm => ?_, fun h => ?_⟩⟩
  · rw [hcounts, (readInt?_variableText_iff environment).2 hn, Option.getD_some]
  · rw [hcounts, readInt?_eq_none environment h, Option.getD_none]
    exact max_eq_right (least_le_standard c)
  · rw [htimeouts, (readDouble?_variableText_iff environment).2 ⟨m, hm, rfl⟩, Option.getD_some]
  · rw [htimeouts, readDouble?_eq_none environment h, Option.getD_none]

/-- An environment in which timeouts and counts are written in several ways. -/
def variedEnvironment : List (String × String) :=
  [("HOSTBASICS_STUN_TIMEOUT", "\t+2_5.e-1 "), ("HOSTBASICS_ASN_TIMEOUT", "soon"),
    ("HOSTBASICS_MAX_WORKERS", "-4"), ("HOSTBASICS_HTTP_RETRIES", "1.5")]

/-- Settings of such an environment are usable. -/
theorem ofEnvironment_isUsable_variedEnvironment :
    ∃ settings, ofEnvironment variedEnvironment "en" false = .ok settings ∧ settings.IsUsable ∧
      settings.maxWorkers = 1 ∧ settings.httpRetries = 3 ∧ settings.asnTimeout = 6 := by
  obtain ⟨settings, hsettings, -, husable, hcounts, htimeouts⟩ :=
    ofEnvironment_isUsable_iff variedEnvironment .english false
  have hworkers : Count.workers.Says variedEnvironment (-4) :=
    (readInt?_variableText_iff variedEnvironment).1 (by decide +kernel)
  have hretries : ¬∃ n, Count.retries.Says variedEnvironment n := by
    rintro ⟨n, hn⟩
    have hnone : readInt? (variableText variedEnvironment Count.retries.name) = none := by
      decide +kernel
    rw [(readInt?_variableText_iff variedEnvironment).2 hn] at hnone
    exact nomatch hnone
  have hasn : ¬∃ m, Timeout.asn.Says variedEnvironment m := by
    rintro ⟨m, hm⟩
    have hnone : readDouble? (variableText variedEnvironment Timeout.asn.name) = none := by
      decide +kernel
    rw [(readDouble?_variableText_iff variedEnvironment).2 ⟨m, hm, rfl⟩] at hnone
    exact nomatch hnone
  refine ⟨settings, hsettings, husable.2 fun t => ?_, (hcounts .workers).2.1 (-4) hworkers,
    (hcounts .retries).2.2 hretries, (htimeouts .asn).2 hasn⟩
  rw [← isDuration_getD_iff]
  cases t <;> decide +kernel

/-- A timeout that is no number of seconds is taken from the environment. -/
theorem not_ofEnvironment_isUsable :
    ¬∀ (environment : List (String × String)) (language : Language) (isLogging : Bool),
      ∃ settings, ofEnvironment environment language.code isLogging = .ok settings ∧
        settings.IsUsable := by
  intro hall
  obtain ⟨settings, hsettings, husable⟩ :=
    hall [("HOSTBASICS_STUN_TIMEOUT", "nan")] .english false
  have hnan : (ofEnvironment [("HOSTBASICS_STUN_TIMEOUT", "nan")] "en" false).map
      Settings.stunTimeout = .ok .nan := by
    decide +kernel
  rw [show (Language.english).code = "en" from rfl] at hsettings
  rw [hsettings] at hnan
  have htimeout : settings.stunTimeout = .nan := Except.ok.inj hnan
  have hduration : Binary64.IsDuration settings.stunTimeout := husable.timeouts .stun
  rw [htimeout] at hduration
  exact nomatch hduration.1

end Settings

end HostReport
