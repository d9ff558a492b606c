import HostReport.Processor.Feature
import HostReport.Proofs.Text.Scan
import HostReport.Proofs.Text.Search

/-!
# Features in listings of variables

A listing has a line for each variable, with its name, a mark and its value.  Reading it for
features knows no lines: it looks for the name of a variable anywhere, and at what is behind it
(`isSet_iff`, `hasAesDevice_iff`).  Where names and values do not mention the features otherwise, a
feature is read off the line of its variable alone (`occursBefore_listing_iff`).  That a number
stands there is enough, so zero counts as well, and what a listing tells is what its variables mean
only where they are fair (`readFeatures_eq_of_isFair`).
-/

namespace HostReport.ProcessorFeatures

open Text

/-! ## Whole texts -/

/-- Whether a text begins with a number, behind blanks. -/
def BeginsWithNumber (s : List Char) : Prop :=
  ∃ d ∈ (s.dropWhile isBlank).head?, isDecimal d = true

/-- Whether a text begins with an equals sign and a number behind it, each behind blanks. -/
def IsAssignment (s : List Char) : Prop :=
  ∃ r, s.dropWhile isBlank = '=' :: r ∧ BeginsWithNumber r

/-- Whether a text begins with a colon and has some character behind it that is no line feed. -/
def IsDescription (s : List Char) : Prop := ∃ r, s = ':' :: r ∧ ∃ c ∈ r, c ≠ '\n'

theorem isSome_setVariable_iff (name : String) (s : List Char) :
    (setVariable name s).isSome = true ↔ ∃ r, name.toList ++ r = s ∧ IsAssignment r := by
  have hblanks : ∀ (g : List Char → Scan Unit) (r : List Char),
      (Scan.blanks >>= g) r = g (r.takeWhile isBlank) (r.dropWhile isBlank) := fun _ _ => rfl
  have hdigit : ∀ r, ((Scan.one isDecimal >>= fun _ => pure ()) r).isSome = true ↔
      ∃ d ∈ r.head?, isDecimal d = true := by
    intro r
    rw [← Scan.isSome_one_iff]
    cases hread : Scan.one isDecimal r with
    | none =>
      rw [Scan.bind_of_none hread]
      exact iff_of_false nofun nofun
    | some x =>
      rw [Scan.bind_of_some hread]
      rfl
  have hmark : "=".toList = ['='] := rfl
  simp only [setVariable, Scan.isSome_word_bind_iff, hblanks, hdigit, hmark, List.singleton_append,
    IsAssignment, BeginsWithNumber, eq_comm (b := List.dropWhile isBlank _)]

/-- A variable counts as set wherever its name stands with an assignment behind it. -/
theorem isSet_iff {name : String} (hname : name ≠ "") (s : List Char) :
    isSet name s = true ↔ OccursBefore IsAssignment name.toList s := by
  rw [isSet, Scan.isSome_findFirst_iff]
  simp only [isSome_setVariable_iff]
  constructor
  · rintro ⟨t, -, ht, r, rfl, hr⟩
    exact ⟨r, ht, hr⟩
  · rintro ⟨r, hr, hassigned⟩
    refine ⟨_, ?_, hr, r, rfl, hassigned⟩
    exact List.append_ne_nil_of_left_ne_nil (mt String.toList_eq_nil_iff.1 hname) r

/-- The name of the variable that describes the first AES device. -/
def aesDevice : String := "dev.aesni.0.%desc"

/-- A device counts as described wherever the name of its variable stands with a description
behind it. -/
theorem hasAesDevice_iff (s : List Char) :
    hasAesDevice s = true ↔ OccursBefore IsDescription aesDevice.toList s := by
  have hgrows : ∀ r r' : List Char, r' <:+ r → (∃ c ∈ r', c ≠ '\n') → ∃ c ∈ r, c ≠ '\n' :=
    fun _ _ hr ⟨c, hc, hne⟩ => ⟨c, hr.subset hc, hne⟩
  have hheading : "dev.aesni.0.%desc:".toList = aesDevice.toList ++ [':'] := by decide
  have hafter := exists_after?_iff hgrows (w := "dev.aesni.0.%desc:".toList) (by decide) s
  have hread : hasAesDevice s = true ↔
      ∃ r, after? "dev.aesni.0.%desc:".toList s = some r ∧ ∃ c ∈ r, c ≠ '\n' := by
    rw [hasAesDevice]
    cases after? "dev.aesni.0.%desc:".toList s with
    | none => simp
    | some r => simp [List.any_eq_true]
  rw [hread, hafter, hheading]
  constructor
  · rintro ⟨r, hr, hsome⟩
    exact ⟨':' :: r, by simpa using hr, r, rfl, hsome⟩
  · rintro ⟨_, hr, r, rfl, hsome⟩
    exact ⟨r, by simpa using hr, hsome⟩

/-! ## Variables of a listing -/

/-- What stands between the name of a variable and its value. -/
inductive VariableMark where
  | equals
  | colon
  deriving DecidableEq

/-- How a mark is written. -/
def VariableMark.text : VariableMark → List Char
  | equals => [' ', '=', ' ']
  | colon => [':', ' ']

/-- Whether a character may stand in the name of a variable. -/
def isNameChar (c : Char) : Bool := !isBlank c && c ≠ '=' && c ≠ ':'

/-- A variable with its name, the mark behind it and its value, on a line of its own. -/
structure ListedVariable where
  name : List Char
  mark : VariableMark
  value : List Char
  name_ne_nil : name ≠ [] := by decide
  name_plain : ∀ c ∈ name, isNameChar c = true := by decide
  value_oneLine : '\n' ∉ value := by decide

namespace ListedVariable

variable (v : ListedVariable)

/-- The line of a variable. -/
def line : List Char := v.name ++ (v.mark.text ++ v.value)

/-- Whether the value begins with a number, behind blanks. -/
def HasNumber : Prop := BeginsWithNumber v.value

/-- Whether the value begins with a number that is not zero, behind blanks: one of its digits is
not. -/
def HasNonzero : Prop :=
  ∃ d ∈ (v.value.dropWhile isBlank).takeWhile isDecimal, decimalValue? d ≠ some 0

/-- Whether the value holds anything but blanks. -/
def HasValue : Prop := ∃ c ∈ v.value, isBlank c = false

end ListedVariable

/-- The variables of a listing that tell features by a number. -/
def switches : List String := ["crypto.aesni", "hw.vmx", "hw.svm"]

/-- The variables of a listing that tell features. -/
def featureNames : List String := aesDevice :: switches

/-- Whether a variable tells of features at most by its own name: the name ends in that of a feature
only if it is that name, and does not begin like a number, and the value mentions none. -/
structure ListedVariable.IsQuiet (v : ListedVariable) : Prop where
  name_head : ∀ c ∈ v.name.head?, isDecimal c = false
  name_eq : ∀ w ∈ featureNames, w.toList <:+ v.name → v.name = w.toList
  value_silent : ∀ w ∈ featureNames, ¬w.toList <:+: v.value

instance : DecidablePred ListedVariable.IsQuiet := fun v =>
  decidable_of_iff ((∀ c ∈ v.name.head?, isDecimal c = false) ∧
      (∀ w ∈ featureNames, w.toList <:+ v.name → v.name = w.toList) ∧
        ∀ w ∈ featureNames, ¬w.toList <:+: v.value)
    ⟨fun h => ⟨h.1, h.2.1, h.2.2⟩, fun h => ⟨h.name_head, h.name_eq, h.value_silent⟩⟩

/-- The text with these variables. -/
def listing (vs : List ListedVariable) : List Char := unlines (vs.map ListedVariable.line)

theorem listing_cons (v : ListedVariable) (vs : List ListedVariable) :
    listing (v :: vs) = v.line ++ '\n' :: listing vs := unlines_cons _ _

section

variable {P : List Char → Prop} {w : String} (hw : w ∈ featureNames)
  (hP : ∀ c r, isNameChar c = true → ¬P (c :: r))

include hw hP

/-- The name of a feature stands in a line only as that of its variable. -/
theorem occursBefore_line_iff {v : ListedVariable} (hv : v.IsQuiet) (s : List Char) :
    OccursBefore P w.toList (v.line ++ '\n' :: s) ↔
      (v.name = w.toList ∧ P (v.mark.text ++ (v.value ++ '\n' :: s))) ∨
        OccursBefore P w.toList s := by
  have hall : ∀ w ∈ featureNames, w.toList ≠ [] ∧ '\n' ∉ w.toList ∧
      (∀ c ∈ VariableMark.equals.text, c ∉ w.toList) ∧
        ∀ c ∈ VariableMark.colon.text, c ∉ w.toList := by
    decide
  obtain ⟨hne, hnewline, hequals, hcolon⟩ := hall w hw
  have hmark : v.mark.text ≠ [] ∧ ∀ c ∈ v.mark.text, c ∉ w.toList := by
    cases v.mark with
    | equals => exact ⟨by decide, hequals⟩
    | colon => exact ⟨by decide, hcolon⟩
  have hvalue : ¬OccursBefore (fun r => P (r ++ '\n' :: s)) w.toList v.value := by
    rintro ⟨r, hr, -⟩
    exact hv.value_silent w hw ((List.prefix_append _ r).isInfix.trans hr.isInfix)
  have hname : OccursBefore (fun r => P (r ++ (v.mark.text ++ (v.value ++ '\n' :: s)))) w.toList
      v.name ↔ v.name = w.toList ∧ P (v.mark.text ++ (v.value ++ '\n' :: s)) := by
    constructor
    · rintro ⟨r, hr, hbehind⟩
      cases r with
      | nil =>
        rw [List.append_nil] at hr
        exact ⟨hv.name_eq w hw hr, hbehind⟩
      | cons c r =>
        have hc : c ∈ v.name := hr.subset (List.mem_append_right _ List.mem_cons_self)
        exact absurd hbehind (hP c _ (v.name_plain c hc))
    · rintro ⟨heq, hbehind⟩
      exact ⟨[], by rw [List.append_nil, heq], hbehind⟩
  rw [ListedVariable.line, List.append_assoc, List.append_assoc,
    occursBefore_append_iff hne hmark.1 hmark.2, occursBefore_append_cons_iff hne hnewline,
    or_iff_right hvalue, hname]

/-- The name of a feature stands in a listing only as that of its variable, where what is behind it
is to be told from the variable alone. -/
theorem occursBefore_listing_iff {Q : ListedVariable → Prop}
    (hQ : ∀ v behind, (∀ u ∈ behind, u.IsQuiet) →
      (P (v.mark.text ++ (v.value ++ '\n' :: listing behind)) ↔ Q v))
    {vs : List ListedVariable} (hvs : ∀ v ∈ vs, v.IsQuiet) :
    OccursBefore P w.toList (listing vs) ↔ ∃ v ∈ vs, v.name = w.toList ∧ Q v := by
  induction vs with
  | nil =>
    have hne : ∀ w ∈ featureNames, w.toList ≠ [] := by decide
    exact iff_of_false (not_occursBefore_nil (hne w hw)) (by simp)
  | cons v vs ih =>
    obtain ⟨hv, hvs⟩ := List.forall_mem_cons.1 hvs
    rw [listing_cons, occursBefore_line_iff hw hP hv, ih hvs, hQ v vs hvs,
      List.exists_mem_cons_iff]

end

/-! ## Numbers behind marks -/

theorem beginsWithNumber_cons_of_isBlank {c : Char} (hc : isBlank c = true) (s : List Char) :
    BeginsWithNumber (c :: s) ↔ BeginsWithNumber s := by
  rw [BeginsWithNumber, List.dropWhile_cons_of_pos hc, BeginsWithNumber]

/-- What stands behind a text makes no difference to whether it begins with a number, unless it does
so itself. -/
theorem beginsWithNumber_append_iff {t : List Char} (ht : ¬BeginsWithNumber t) (s : List Char) :
    BeginsWithNumber (s ++ t) ↔ BeginsWithNumber s := by
  rw [BeginsWithNumber, BeginsWithNumber, List.dropWhile_append]
  cases hs : s.dropWhile isBlank with
  | nil =>
    rw [List.isEmpty_nil, if_pos rfl]
    exact iff_of_false ht (by simp)
  | cons c s => simp

/-- No number begins behind the end of a line. -/
theorem not_beginsWithNumber_listing {vs : List ListedVariable} (hvs : ∀ v ∈ vs, v.IsQuiet) :
    ¬BeginsWithNumber ('\n' :: listing vs) := by
  rw [beginsWithNumber_cons_of_isBlank (by decide)]
  cases vs with
  | nil => simp [listing, unlines, BeginsWithNumber]
  | cons v vs =>
    obtain ⟨c, name, hname⟩ := List.exists_cons_of_ne_nil v.name_ne_nil
    have hc := v.name_plain c (hname ▸ List.mem_cons_self)
    have hblank : isBlank c = false := by
      simp only [isNameChar, Bool.and_eq_true, Bool.not_eq_true'] at hc
      exact hc.1.1
    have hdigit := (hvs v List.mem_cons_self).name_head c (by rw [hname]; rfl)
    rw [listing_cons, ListedVariable.line, hname, BeginsWithNumber]
    simp [hblank, hdigit]

theorem not_isAssignment_cons {c : Char} (hc : isNameChar c = true) (s : List Char) :
    ¬IsAssignment (c :: s) := by
  simp only [isNameChar, Bool.and_eq_true, Bool.not_eq_true', decide_eq_true_eq] at hc
  simp [IsAssignment, hc]

theorem not_isDescription_cons {c : Char} (hc : isNameChar c = true) (s : List Char) :
    ¬IsDescription (c :: s) := by
  simp only [isNameChar, Bool.and_eq_true, decide_eq_true_eq] at hc
  simp [IsDescription, hc]

theorem isAssignment_mark_append_iff (m : VariableMark) (s : List Char) :
    IsAssignment (m.text ++ s) ↔ m = .equals ∧ BeginsWithNumber s := by
  have hspace : isBlank ' ' = true := by decide
  have hequals : isBlank '=' = false := by decide
  have hcolon : isBlank ':' = false := by decide
  cases m with
  | equals =>
    rw [← beginsWithNumber_cons_of_isBlank hspace s]
    simp [IsAssignment, VariableMark.text, hspace, hequals]
  | colon => simp [IsAssignment, VariableMark.text, hcolon]

theorem isDescription_mark_append_iff (m : VariableMark) (s : List Char) :
    IsDescription (m.text ++ s) ↔ m = .colon := by
  cases m with
  | equals => simp [IsDescription, VariableMark.text]
  | colon => simp [IsDescription, VariableMark.text]

section

variable {vs : List ListedVariable} (hvs : ∀ v ∈ vs, v.IsQuiet)

include hvs

/-- In a listing a variable counts as set if a number stands behind its equals sign. -/
theorem isSet_listing_iff {w : String} (hw : w ∈ switches) :
    isSet w (listing vs) = true ↔
      ∃ v ∈ vs, v.name = w.toList ∧ v.mark = .equals ∧ v.HasNumber := by
  have hne : ∀ w ∈ switches, w ≠ "" := by decide
  rw [isSet_iff (hne w hw)]
  refine occursBefore_listing_iff (List.mem_cons_of_mem _ hw)
    (fun _ r hc => not_isAssignment_cons hc r) (fun v behind hbehind => ?_) hvs
  rw [isAssignment_mark_append_iff,
    beginsWithNumber_append_iff (not_beginsWithNumber_listing hbehind)]
  rfl

/-- In a listing the first AES device counts as described if a colon stands behind its variable. -/
theorem hasAesDevice_listing_iff :
    hasAesDevice (listing vs) = true ↔
      ∃ v ∈ vs, v.name = aesDevice.toList ∧ v.mark = .colon := by
  rw [hasAesDevice_iff]
  exact occursBefore_listing_iff List.mem_cons_self (fun _ r hc => not_isDescription_cons hc r)
    (fun v _ _ => isDescription_mark_append_iff v.mark _) hvs

end

/-! ## Whether the last line ends -/

theorem isAssignment_append_newline (s : List Char) :
    IsAssignment (s ++ ['\n']) ↔ IsAssignment s := by
  have hend : ¬BeginsWithNumber ['\n'] := by simp [BeginsWithNumber, isBlank]
  rw [IsAssignment, IsAssignment, List.dropWhile_append]
  cases hs : s.dropWhile isBlank with
  | nil => simp [isBlank]
  | cons c s =>
    rw [List.isEmpty_cons, if_neg (by decide), List.cons_append]
    simp only [List.cons.injEq]
    constructor
    · rintro ⟨_, ⟨rfl, rfl⟩, hnumber⟩
      exact ⟨s, ⟨rfl, rfl⟩, (beginsWithNumber_append_iff hend s).1 hnumber⟩
    · rintro ⟨r, ⟨rfl, rfl⟩, hnumber⟩
      exact ⟨s ++ ['\n'], ⟨rfl, rfl⟩, (beginsWithNumber_append_iff hend s).2 hnumber⟩

theorem isDescription_append_newline (s : List Char) :
    IsDescription (s ++ ['\n']) ↔ IsDescription s := by
  cases s with
  | nil => simp [IsDescription]
  | cons c s => simp [IsDescription]

/-- A listing is read the same if its last line lacks the line feed. -/
theorem ofAssignments_of_isWrittenAs {text : String} {vs : List ListedVariable}
    (htext : IsWrittenAs text.toList (vs.map ListedVariable.line)) :
    ofAssignments text = ofAssignments (String.ofList (listing vs)) := by
  rcases htext with htext | htext
  · rw [listing, ← htext, String.ofList_toList]
  · have hoccurs : ∀ {P : List Char → Prop}, (∀ r, P (r ++ ['\n']) ↔ P r) → ∀ w ∈ featureNames,
        (OccursBefore P w.toList (listing vs) ↔ OccursBefore P w.toList text.toList) := by
      intro P hP w hw
      have hall : ∀ w ∈ featureNames, w.toList ≠ [] ∧ '\n' ∉ w.toList := by decide
      obtain ⟨hne, hnewline⟩ := hall w hw
      rw [listing, ← htext, occursBefore_append_cons_iff hne hnewline,
        or_iff_left (not_occursBefore_nil hne), occursBefore_congr hP]
    have hset : ∀ w ∈ switches, isSet w text.toList = isSet w (listing vs) := by
      intro w hw
      have hne : ∀ w ∈ switches, w ≠ "" := by decide
      rw [Bool.eq_iff_iff, isSet_iff (hne w hw), isSet_iff (hne w hw),
        hoccurs isAssignment_append_newline w (List.mem_cons_of_mem _ hw)]
    have hdevice : hasAesDevice text.toList = hasAesDevice (listing vs) := by
      rw [Bool.eq_iff_iff, hasAesDevice_iff, hasAesDevice_iff,
        hoccurs isDescription_append_newline aesDevice List.mem_cons_self]
    rw [ofAssignments, ofAssignments, String.toList_ofList, hdevice, hset _ (by decide),
      hset _ (by decide), hset _ (by decide)]

/-! ## What a listing tells -/

/-- The features that a listing tells, where it is known which values mean that a feature is there
and which that there is a device for it. -/
def featuresBy (isOn isDevice : ListedVariable → Prop) [DecidablePred isOn]
    [DecidablePred isDevice] (vs : List ListedVariable) : ProcessorFeatures where
  aes := decide (∃ v ∈ vs, v.name = "crypto.aesni".toList ∧ isOn v ∨
    v.name = aesDevice.toList ∧ isDevice v)
  virtualization :=
    decide (∃ v ∈ vs, (v.name = "hw.vmx".toList ∨ v.name = "hw.svm".toList) ∧ isOn v)

instance : DecidablePred BeginsWithNumber := fun s =>
  inferInstanceAs (Decidable (∃ d ∈ (s.dropWhile isBlank).head?, isDecimal d = true))

instance : DecidablePred ListedVariable.HasNumber := fun v =>
  inferInstanceAs (Decidable (BeginsWithNumber v.value))

instance : DecidablePred ListedVariable.HasNonzero := fun v =>
  inferInstanceAs (Decidable
    (∃ d ∈ (v.value.dropWhile isBlank).takeWhile isDecimal, decimalValue? d ≠ some 0))

instance : DecidablePred ListedVariable.HasValue := fun v =>
  inferInstanceAs (Decidable (∃ c ∈ v.value, isBlank c = false))

/-- The features that the variables of a listing mean: a number that is not zero means that a
feature is there, and a description that there is a device. -/
def toldFeatures (vs : List ListedVariable) : ProcessorFeatures :=
  featuresBy ListedVariable.HasNonzero ListedVariable.HasValue vs

/-- The features that are read from a listing. -/
def readFeatures (vs : List ListedVariable) : ProcessorFeatures :=
  featuresBy (fun v => v.mark = .equals ∧ v.HasNumber) (fun v => v.mark = .colon) vs

theorem ofAssignments_listing {vs : List ListedVariable} (hvs : ∀ v ∈ vs, v.IsQuiet) :
    ofAssignments (String.ofList (listing vs)) = readFeatures vs := by
  rw [ofAssignments, readFeatures, featuresBy, String.toList_ofList]
  congr 1
  · rw [Bool.eq_iff_iff, Bool.or_eq_true, isSet_listing_iff hvs (by decide),
      hasAesDevice_listing_iff hvs, decide_eq_true_iff]
    simp only [and_or_left, exists_or]
  · rw [Bool.eq_iff_iff, Bool.or_eq_true, isSet_listing_iff hvs (by decide),
      isSet_listing_iff hvs (by decide), decide_eq_true_iff]
    simp only [or_and_right, and_or_left, exists_or]

/-- Whether a variable is read as it is meant: of those that tell a feature by a number, none is
zero behind an equals sign and none is another number behind a colon; and the device has a
description exactly if a colon stands before it. -/
structure ListedVariable.IsFair (v : ListedVariable) : Prop where
  not_zero : ∀ w ∈ switches, v.name = w.toList → v.mark = .equals → v.HasNumber → v.HasNonzero
  not_colon : ∀ w ∈ switches, v.name = w.toList → v.mark = .colon → ¬v.HasNonzero
  device : v.name = aesDevice.toList → (v.mark = .colon ↔ v.HasValue)

theorem ListedVariable.HasNonzero.hasNumber {v : ListedVariable} (hv : v.HasNonzero) :
    v.HasNumber := by
  obtain ⟨d, hd, -⟩ := hv
  rw [HasNumber, BeginsWithNumber]
  cases hvalue : v.value.dropWhile isBlank with
  | nil => simp [hvalue] at hd
  | cons c s =>
    by_cases hc : isDecimal c = true
    · exact ⟨c, rfl, hc⟩
    · simp [hvalue, hc] at hd

/-- A number is read as it is meant exactly if the variable is fair. -/
theorem ListedVariable.isFair_iff (v : ListedVariable) :
    v.IsFair ↔
      (∀ w ∈ switches, v.name = w.toList → (v.mark = .equals ∧ v.HasNumber ↔ v.HasNonzero)) ∧
        (v.name = aesDevice.toList → (v.mark = .colon ↔ v.HasValue)) := by
  constructor
  · intro hv
    refine ⟨fun w hw hname => ⟨fun hread => hv.not_zero w hw hname hread.1 hread.2, fun hmeant =>
      ⟨?_, hmeant.hasNumber⟩⟩, hv.device⟩
    cases hmark : v.mark with
    | equals => rfl
    | colon => exact absurd hmeant (hv.not_colon w hw hname hmark)
  · rintro ⟨hnumber, hdevice⟩
    refine ⟨fun w hw hname hmark hread => (hnumber w hw hname).1 ⟨hmark, hread⟩,
      fun w hw hname hmark hmeant => ?_, hdevice⟩
    have hequals := ((hnumber w hw hname).2 hmeant).1
    rw [hmark] at hequals
    exact nomatch hequals

instance : DecidablePred ListedVariable.IsFair := fun v => decidable_of_iff _ v.isFair_iff.symm

/-- A variable that stands alone is read as it is meant exactly if it is fair. -/
theorem readFeatures_singleton_iff (v : ListedVariable) :
    readFeatures [v] = toldFeatures [v] ↔ v.IsFair := by
  have hsingle : ∀ P : ListedVariable → Prop, (∃ u ∈ [v], P u) ↔ P v := by simp
  have hnames : v.name = "crypto.aesni".toList → v.name ≠ aesDevice.toList := by
    intro hname
    rw [hname]
    decide
  rw [ListedVariable.isFair_iff, readFeatures, toldFeatures, featuresBy, featuresBy,
    ProcessorFeatures.mk.injEq, decide_eq_decide, decide_eq_decide, hsingle, hsingle, hsingle,
    hsingle]
  simp only [switches, List.forall_mem_cons, List.not_mem_nil, false_implies, implies_true]
  generalize (v.mark = .equals ∧ v.HasNumber) = read
  generalize v.HasNonzero = meant
  constructor
  · rintro ⟨haes, hvirtual⟩
    refine ⟨⟨fun hname => ?_, fun hname => ?_, fun hname => ?_, trivial⟩, fun hname => ?_⟩
    · have hother : ∀ P : Prop, ¬(v.name = aesDevice.toList ∧ P) := fun _ h => hnames hname h.1
      rwa [or_iff_left (hother _), or_iff_left (hother _), and_iff_right hname,
        and_iff_right hname] at haes
    · rwa [and_iff_right (.inl hname), and_iff_right (.inl hname)] at hvirtual
    · rwa [and_iff_right (.inr hname), and_iff_right (.inr hname)] at hvirtual
    · have hother : ∀ P : Prop, ¬(v.name = "crypto.aesni".toList ∧ P) :=
        fun _ h => hnames h.1 hname
      rwa [or_iff_right (hother _), or_iff_right (hother _), and_iff_right hname,
        and_iff_right hname] at haes
  · rintro ⟨⟨haes, hvmx, hsvm, -⟩, hdevice⟩
    refine ⟨or_congr (and_congr_right haes) (and_congr_right hdevice), and_congr_right ?_⟩
    rintro (hname | hname)
    · exact hvmx hname
    · exact hsvm hname

theorem readFeatures_eq_of_isFair {vs : List ListedVariable} (hvs : ∀ v ∈ vs, v.IsFair) :
    readFeatures vs = toldFeatures vs := by
  rw [readFeatures, toldFeatures, featuresBy, featuresBy, ProcessorFeatures.mk.injEq,
    decide_eq_decide, decide_eq_decide]
  have hnumber : ∀ v ∈ vs, ∀ w ∈ switches, v.name = w.toList →
      (v.mark = .equals ∧ v.HasNumber ↔ v.HasNonzero) :=
    fun v hv => ((v.isFair_iff).1 (hvs v hv)).1
  constructor
  · refine exists_congr fun v => and_congr_right fun hv => or_congr ?_ ?_
    · exact and_congr_right (hnumber v hv _ (by decide))
    · exact and_congr_right (hvs v hv).device
  · refine exists_congr fun v => and_congr_right fun hv => and_congr_right ?_
    rintro (hname | hname)
    · exact hnumber v hv _ (by decide) hname
    · exact hnumber v hv _ (by decide) hname

end HostReport.ProcessorFeatures
