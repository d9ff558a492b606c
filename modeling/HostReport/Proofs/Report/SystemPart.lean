import HostReport.Proofs.Report.Field
import HostReport.Proofs.Report.Lines
import HostReport.Proofs.Text.Columns
import HostReport.Proofs.Text.Line
import Mathlib.Data.List.Forall2
import Mathlib.Data.List.Nodup

/-!
# The layout of the system part

The system part has a line for each thing that is shown, in a fixed order.  What a line shows is
given by rules (`SystemInfo.Shows`): most lines show a field as it is, some put two fields together,
and that of the swap space may hold a notice instead.  The labels fill a column of their own, and
both languages have the same lines.
-/

namespace HostReport

open Text

/-! ## Labels -/

namespace Label

/-- The labels of the system part, in the order of its lines. -/
def ofSystem : List Label :=
  [cpuModel, cpuCores, cpuCache, aesNi, virtualization, ram, virtioBalloon, ksm, swap, disk,
    bootPath, gpuModel, gpuStats, osRelease, kernel, uptime, timezone, load, vmType, natType,
    tcpAcceleration]

/-- The labels of the lines that are always there. -/
def constant : List Label := [cpuModel, cpuCores, ram, disk, osRelease, uptime, load, vmType]

/-- The field that a line shows as it is, if it shows one. -/
def field? : Label → Option SystemInfo.Field
  | cpuModel => some .cpuModel
  | cpuCores => some .cpuCores
  | cpuCache => some .cpuCache
  | aesNi => some .aesNi
  | virtualization => some .virtualization
  | virtioBalloon => some .virtioBalloon
  | ksm => some .ksm
  | bootPath => some .bootPath
  | gpuModel => some .gpuModel
  | gpuStats => some .gpuStats
  | kernel => some .kernel
  | uptime => some .uptime
  | timezone => some .timezone
  | load => some .load
  | vmType => some .vmType
  | natType => some .natType
  | tcpAcceleration => some .tcpAcceleration
  | _ => none

variable (l : Label) (language : Language)

theorem text_injective : Function.Injective fun l : Label => l.text language := by
  have hall : (all.map fun l => l.text language).Nodup := by cases language <;> decide
  exact fun l l' htext => List.inj_on_of_nodup_map hall l.mem_all l'.mem_all htext

theorem isPlain_of_mem_text : ∀ c ∈ (l.text language).toList, isPlain c = true := by
  have hall : ∀ l ∈ all, ∀ c ∈ (l.text language).toList, isPlain c = true := by
    cases language <;> decide +kernel
  exact hall l l.mem_all

variable {columns : List Char → Nat}

theorem columns_text_lt (hplain : MeasuresPlain columns) :
    columns (l.text language).toList < width := by
  have hall : ∀ l ∈ all,
      (l.text language).toList.length + (l.text language).toList.countP isIdeograph < width := by
    cases language <;> decide +kernel
  rw [hplain _ (l.isPlain_of_mem_text language)]
  exact hall l l.mem_all

/-- In front of the colon a label stands behind one space, filled up to the width of labels. -/
theorem exists_head_eq (hplain : MeasuresPlain columns) : ∃ n,
    l.head language columns =
        " " ++ (l.text language ++ String.ofList (List.replicate n ' ')) ++ ": " ∧
      columns (l.text language ++ String.ofList (List.replicate n ' ')).toList = width := by
  have hlt := l.columns_text_lt language hplain
  have htext := l.isPlain_of_mem_text language
  have hfilled : ∀ n, ∀ c ∈ (l.text language).toList ++ List.replicate n ' ', isPlain c = true :=
    fun n => List.forall_mem_append.2 ⟨htext, isPlain_of_mem_replicate_space n⟩
  refine ⟨max (width - columns (l.text language).toList) 1, ?_, ?_⟩
  · rw [head, ← String.append_assoc]
  · rw [hplain _ htext] at hlt ⊢
    rw [String.toList_append, String.toList_ofList, hplain _ (hfilled _),
      List.length_append, List.length_replicate, List.countP_append, List.countP_replicate,
      if_neg (by decide)]
    omega

theorem head_oneLine (columns : List Char → Nat) :
    ∀ c ∈ (l.head language columns).toList, isLineBreak c = false := by
  have hends : (∀ c ∈ " ".toList, isPlain c = true) ∧ ∀ c ∈ ": ".toList, isPlain c = true := by
    decide
  intro c hc
  refine isLineBreak_of_isPlain ?_
  simp only [head, String.toList_append, String.toList_ofList, List.mem_append] at hc
  rcases hc with ((hc | hc) | hc) | hc
  · exact hends.1 c hc
  · exact l.isPlain_of_mem_text language c hc
  · exact isPlain_of_mem_replicate_space _ c hc
  · exact hends.2 c hc

theorem head_append_ne_empty (columns : List Char → Nat) (value : String) :
    l.head language columns ++ value ≠ "" := by
  rw [ne_eq, ← String.toList_inj]
  simp [head]

end Label

namespace SystemInfo

/-- What the lines of the system part show. -/
inductive Shows (i : SystemInfo) (language : Language) : Label → String → Prop
  | field {l : Label} {f : Field} (hf : l.field? = some f)
      (hshown : l ∈ Label.constant ∨ f.get i ≠ "") : Shows i language l (f.get i)
  | ram : Shows i language .ram (i.memoryUsage ++ " / " ++ i.memoryTotal)
  | noSwap (htotal : i.swapTotal = "") (husage : i.swapUsage = "") :
      Shows i language .swap (Message.noSwap.text language)
  | swap (htotal : i.swapTotal ≠ "") (husage : i.swapUsage ≠ "") :
      Shows i language .swap (i.swapUsage ++ " / " ++ i.swapTotal)
  | disk : Shows i language .disk (i.diskUsage ++ " / " ++ i.diskTotal)
  | osRelease : Shows i language .osRelease (i.platform ++ " [" ++ i.arch ++ "] ")

/-- The labels of the system part of a record. -/
def labels (i : SystemInfo) (language : Language) : List Label :=
  (i.lines language).map Prod.fst

/-- Whether two lines in English and in Chinese show the same, the notice apart that there is no
swap space. -/
def IsParallel (english chinese : Label × String) : Prop :=
  english.1 = chinese.1 ∧ (english.2 = chinese.2 ∨
    english = (.swap, Message.noSwap.text .english) ∧
      chinese = (.swap, Message.noSwap.text .chinese))

variable {i : SystemInfo} {language : Language} {l : Label} {value : String}

/-! ## What is shown -/

theorem known_eq_some_iff {text : String} :
    shown.known text = some value ↔ text ≠ "" ∧ text = value := by
  rw [shown.known, Option.ite_none_left_eq_some, String.isEmpty_iff, Option.some_inj]

theorem swapShown_of_empty (htotal : i.swapTotal = "") (husage : i.swapUsage = "") :
    i.swapShown language = some (Message.noSwap.text language) := by
  rw [swapShown, htotal, husage]
  rfl

theorem swapShown_of_nonempty (htotal : i.swapTotal ≠ "") (husage : i.swapUsage ≠ "") :
    i.swapShown language = some (i.swapUsage ++ " / " ++ i.swapTotal) := by
  have htotal := Bool.eq_false_iff.2 (mt String.isEmpty_iff.1 htotal)
  have husage := Bool.eq_false_iff.2 (mt String.isEmpty_iff.1 husage)
  rw [swapShown, htotal, husage]
  rfl

theorem shows_of_swapShown (hshown : i.swapShown language = some value) :
    Shows i language .swap value := by
  by_cases htotal : i.swapTotal = "" <;> by_cases husage : i.swapUsage = ""
  · obtain rfl := Option.some.inj ((swapShown_of_empty htotal husage).symm.trans hshown)
    exact .noSwap htotal husage
  · simp [swapShown, htotal, husage] at hshown
  · simp [swapShown, htotal, husage] at hshown
  · obtain rfl := Option.some.inj ((swapShown_of_nonempty htotal husage).symm.trans hshown)
    exact .swap htotal husage

theorem shown_of_field? {f : Field} (hf : l.field? = some f) : i.shown language l =
    if l ∈ Label.constant then some (f.get i) else shown.known (f.get i) := by
  cases l <;> cases hf <;> rfl

/-- A record shows what the rules say, and nothing else. -/
theorem shown_eq_some_iff : i.shown language l = some value ↔ Shows i language l value := by
  constructor
  · intro hshown
    cases hf : l.field? with
    | some f =>
      rw [shown_of_field? hf] at hshown
      split at hshown
      · next hl =>
        obtain rfl := Option.some.inj hshown
        exact .field hf (.inl hl)
      · obtain ⟨hne, rfl⟩ := known_eq_some_iff.1 hshown
        exact .field hf (.inr hne)
    | none =>
      cases l with
      | ram =>
        obtain rfl := Option.some.inj hshown
        exact .ram
      | swap => exact shows_of_swapShown hshown
      | disk =>
        obtain rfl := Option.some.inj hshown
        exact .disk
      | osRelease =>
        obtain rfl := Option.some.inj hshown
        exact .osRelease
      | ipv4Asn | ipv4Location | ipv6Asn | ipv6Location | ipv6Mask => cases hshown
      | _ => cases hf
  · intro hshows
    cases hshows with
    | field hf hshown =>
      rw [shown_of_field? hf]
      split
      · rfl
      · next hl => exact known_eq_some_iff.2 ⟨hshown.resolve_left hl, rfl⟩
    | noSwap htotal husage => exact swapShown_of_empty htotal husage
    | swap htotal husage => exact swapShown_of_nonempty htotal husage
    | ram => rfl
    | disk => rfl
    | osRelease => rfl

/-- What is shown of fields without line breaks has none. -/
theorem Shows.oneLine (hi : ∀ f : Field, ∀ c ∈ (f.get i).toList, isLineBreak c = false)
    (hshows : Shows i language l value) : ∀ c ∈ value.toList, isLineBreak c = false := by
  cases hshows with
  | field hf hshown => exact hi _
  | noSwap htotal husage => cases language <;> decide
  | ram =>
    simp only [String.toList_append, List.forall_mem_append]
    exact ⟨⟨hi .memoryUsage, by decide⟩, hi .memoryTotal⟩
  | swap htotal husage =>
    simp only [String.toList_append, List.forall_mem_append]
    exact ⟨⟨hi .swapUsage, by decide⟩, hi .swapTotal⟩
  | disk =>
    simp only [String.toList_append, List.forall_mem_append]
    exact ⟨⟨hi .diskUsage, by decide⟩, hi .diskTotal⟩
  | osRelease =>
    simp only [String.toList_append, List.forall_mem_append]
    exact ⟨⟨⟨hi .platform, by decide⟩, hi .arch⟩, by decide⟩

/-- What is shown does not depend on the language, the notice apart. -/
theorem shown_english_eq_or (i : SystemInfo) (l : Label) :
    i.shown .english l = i.shown .chinese l ∨
      l = .swap ∧ i.shown .english l = some (Message.noSwap.text .english) ∧
        i.shown .chinese l = some (Message.noSwap.text .chinese) := by
  cases l with
  | swap =>
    by_cases hnone : i.swapTotal = "" ∧ i.swapUsage = ""
    · exact .inr ⟨rfl, swapShown_of_empty hnone.1 hnone.2, swapShown_of_empty hnone.1 hnone.2⟩
    · have hsome : ¬(i.swapTotal.isEmpty && i.swapUsage.isEmpty) = true := by
        rwa [Bool.and_eq_true, String.isEmpty_iff, String.isEmpty_iff]
      left
      rw [shown, shown, swapShown, swapShown, if_neg hsome, if_neg hsome]
  | _ => exact .inl rfl

/-! ## Which lines are there -/

theorem mem_labels_iff : l ∈ i.labels language ↔ ∃ v, Shows i language l v := by
  simp only [labels, List.mem_map, Prod.exists, mem_lines_iff, shown_eq_some_iff]
  constructor
  · rintro ⟨_, v, hv, rfl⟩
    exact ⟨v, hv⟩
  · exact fun ⟨v, hv⟩ => ⟨l, v, hv, rfl⟩

theorem labels_eq (i : SystemInfo) (language : Language) : i.labels language =
    Label.ofSystem.filter fun l => (i.shown language l).isSome := by
  have hguard : ∀ l : Label, ((i.shown language l).map (l, ·)).map Prod.fst =
      Option.guard (fun l => (i.shown language l).isSome) l := by
    intro l
    cases hshown : i.shown language l <;> simp [Option.guard, hshown]
  rw [labels, lines, List.map_filterMap]
  simp only [hguard]
  rw [List.filterMap_eq_filter]
  rfl

theorem mem_labels_of_mem_constant (hl : l ∈ Label.constant) : l ∈ i.labels language := by
  have hshown : (i.shown language l).isSome = true := by
    cases l <;> first | rfl | exact absurd hl (by decide)
  obtain ⟨v, hv⟩ := Option.isSome_iff_exists.1 hshown
  exact mem_labels_iff.2 ⟨v, shown_eq_some_iff.1 hv⟩

theorem swap_mem_labels_iff :
    .swap ∈ i.labels language ↔ (i.swapTotal = "" ↔ i.swapUsage = "") := by
  rw [mem_labels_iff]
  constructor
  · rintro ⟨v, hv⟩
    cases hv with
    | field hf hshown => cases hf
    | noSwap htotal husage => exact iff_of_true htotal husage
    | swap htotal husage => exact iff_of_false htotal husage
  · intro hsame
    by_cases htotal : i.swapTotal = ""
    · exact ⟨_, .noSwap htotal (hsame.1 htotal)⟩
    · exact ⟨_, .swap htotal (mt hsame.2 htotal)⟩

theorem mem_labels_iff_of_field? {f : Field} (hf : l.field? = some f) (hl : l ∉ Label.constant) :
    l ∈ i.labels language ↔ f.get i ≠ "" := by
  rw [mem_labels_iff]
  constructor
  · rintro ⟨v, hv⟩
    rw [← shown_eq_some_iff, shown_of_field? hf, if_neg hl] at hv
    exact (known_eq_some_iff.1 hv).1
  · exact fun hne => ⟨_, .field hf (.inr hne)⟩

/-! ## The layout -/

/-- Both languages have the same lines in the same order. -/
theorem forall₂_lines (i : SystemInfo) :
    List.Forall₂ IsParallel (i.lines .english) (i.lines .chinese) := by
  refine List.rel_filterMap (R := Eq) ?_ (List.forall₂_same.2 fun _ _ => rfl)
  rintro l _ rfl
  dsimp only
  rcases i.shown_english_eq_or l with hsame | ⟨rfl, henglish, hchinese⟩
  · rw [hsame]
    cases i.shown .chinese l with
    | none => exact .none
    | some v => exact .some ⟨rfl, .inl rfl⟩
  · rw [henglish, hchinese]
    exact .some ⟨rfl, .inr ⟨rfl, rfl⟩⟩

theorem linesOf_render (columns : List Char → Nat)
    (hi : ∀ f : Field, ∀ c ∈ (f.get i).toList, isLineBreak c = false) (language : Language) :
    linesOf (i.render language columns) =
      (i.lines language).map fun l => l.1.head language columns ++ l.2 := by
  have hwritten : IsWrittenAs (i.render language columns).toList
      ((i.lines language).map fun l => (l.1.head language columns ++ l.2).toList) := by
    left
    simp [render, unlines, Label.line, List.flatMap_map]
  have hlines := hwritten.lines_eq
    (fun s hs => by
      obtain ⟨⟨l, v⟩, hl, rfl⟩ := List.mem_map.1 hs
      rw [mem_lines_iff, shown_eq_some_iff] at hl
      rw [String.toList_append, List.forall_mem_append]
      exact ⟨l.head_oneLine language columns, hl.oneLine hi⟩)
    (fun hempty => by
      obtain ⟨l, -, hl⟩ := List.mem_map.1 hempty
      exact l.1.head_append_ne_empty language columns l.2 (String.toList_injective hl))
  rw [linesOf, hlines, List.map_map]
  exact List.map_congr_left fun _ _ => String.ofList_toList

/-- By any measure of texts that gives a printable ASCII character one column and an ideograph two:
the system part of a record whose fields have no line breaks has a line for each label that is
shown, and every one ends with a line feed.  Behind the label, which is filled up to the width of
labels, stands what the rules say.  The labels are different and in the order of the system part:
some are always there, that of the swap space is there if both of its fields are known or neither
is, and each of the others if its field is known.  Both languages have the same lines. -/
theorem render_layout {columns : List Char → Nat} (hplain : MeasuresPlain columns)
    (hi : ∀ f : Field, ∀ c ∈ (f.get i).toList, isLineBreak c = false) (language : Language) :
    (i.render language columns =
        String.join ((i.lines language).map fun l => l.1.head language columns ++ l.2 ++ "\n") ∧
      linesOf (i.render language columns) =
        (i.lines language).map (fun l => l.1.head language columns ++ l.2) ∧
      "" ∉ linesOf (i.render language columns)) ∧
    (∀ l : Label, ∃ n,
      l.head language columns =
          " " ++ (l.text language ++ String.ofList (List.replicate n ' ')) ++ ": " ∧
        columns (l.text language ++ String.ofList (List.replicate n ' ')).toList = 20) ∧
    ((i.labels language).Sublist Label.ofSystem ∧
      ((i.labels language).map fun l => l.text language).Nodup) ∧
    ((∀ l ∈ Label.constant, l ∈ i.labels language) ∧
      (.swap ∈ i.labels language ↔ (i.swapTotal = "" ↔ i.swapUsage = "")) ∧
      ∀ l ∈ Label.ofSystem, l ∉ Label.constant → l ≠ .swap →
        ∃ f : Field, l.field? = some f ∧ (l ∈ i.labels language ↔ f.get i ≠ "")) ∧
    (∀ l v, (l, v) ∈ i.lines language ↔ Shows i language l v) ∧
    List.Forall₂ IsParallel (i.lines .english) (i.lines .chinese) := by
  have horder : (i.labels language).Sublist Label.ofSystem := by
    rw [labels_eq]
    exact List.filter_sublist
  have hdifferent : Label.ofSystem.Nodup := by decide
  have hfield : ∀ l ∈ Label.ofSystem, l ∉ Label.constant → l ≠ .swap → l.field?.isSome = true := by
    decide
  refine ⟨⟨rfl, linesOf_render columns hi language, ?_⟩,
    fun l => l.exists_head_eq language hplain,
    ⟨horder, (hdifferent.sublist horder).map (Label.text_injective language)⟩,
    ⟨fun l => mem_labels_of_mem_constant, swap_mem_labels_iff, ?_⟩,
    fun l v => mem_lines_iff.trans shown_eq_some_iff, i.forall₂_lines⟩
  · rw [linesOf_render columns hi language]
    intro hempty
    obtain ⟨l, -, hl⟩ := List.mem_map.1 hempty
    exact l.1.head_append_ne_empty language columns l.2 hl
  · intro l hl hconstant hswap
    obtain ⟨f, hf⟩ := Option.isSome_iff_exists.1 (hfield l hl hconstant hswap)
    exact ⟨f, hf, mem_labels_iff_of_field? hf hconstant⟩

/-- A host of which some things are known, with no swap space. -/
def sampleInfo : SystemInfo where
  cpuModel := "AMD EPYC"
  cpuCores := "2 vCPU(s)"
  memoryTotal := "2.00 GB"
  memoryUsage := "512.00 MB"
  diskTotal := "20.00 GB"
  diskUsage := "4.00 GB"
  platform := "Debian GNU/Linux 12"
  kernel := "6.1.0"
  arch := "x86_64"
  vmType := "KVM"

theorem render_layout_sampleInfo :
    MeasuresPlain Text.columns ∧
      (∀ f : Field, ∀ c ∈ (f.get sampleInfo).toList, isLineBreak c = false) ∧
      linesOf (sampleInfo.render .english) =
        [" CPU Model           : AMD EPYC", " CPU Cores           : 2 vCPU(s)",
          " RAM                 : 512.00 MB / 2.00 GB",
          " Swap                : [ no swap partition or swap file detected ]",
          " Disk                : 4.00 GB / 20.00 GB",
          " OS Release          : Debian GNU/Linux 12 [x86_64] ",
          " Kernel              : 6.1.0", " Uptime              : ",
          " Load                : ", " VM Type             : KVM"] ∧
      " 虚拟内存 Swap       : [ 未检测到交换分区或交换文件 ]" ∈ linesOf (sampleInfo.render .chinese) := by
  have hi : ∀ f : Field, ∀ c ∈ (f.get sampleInfo).toList, isLineBreak c = false := by
    intro f
    cases f <;> decide
  obtain ⟨⟨-, henglish, -⟩, -⟩ := render_layout measuresPlain_columns hi .english
  obtain ⟨⟨-, hchinese, -⟩, -⟩ := render_layout measuresPlain_columns hi .chinese
  rw [henglish, hchinese]
  exact ⟨measuresPlain_columns, hi, by decide +kernel, by decide +kernel⟩

end SystemInfo

end HostReport
