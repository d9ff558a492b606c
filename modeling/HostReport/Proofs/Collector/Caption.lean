import HostReport.Proofs.Collector.Writing
import HostReport.Proofs.Host.Variables
import HostReport.Proofs.Text.FirstKnown

/-!
# The model and the clock of a processor

Three kinds of platforms tell the model of a processor and its clock apart and put the two together.
Each looks for the model in several places, and none of them looks at anything twice, so what is
shown is a function of what each place tells next (`cpuModel_collectCpu`).  A clock is added by one
of two rules.  The one for kernel tables and listings leaves an empty model alone (`withClock_eq`);
the one for the profile of a Mac does not ask whether there is a model (`withSpeed_eq`).
-/

namespace HostReport

open HostM

variable {α β : Type}

/-! ## Captions -/

/-- What the caption of a processor is put together from. -/
structure CaptionParts where
  /-- The texts for a model that may be followed by a clock, the preferred one first. -/
  models : List String
  /-- The texts that stand alone if there is no such model, the preferred one first. -/
  substitutes : List String := []
  /-- The clock with its unit. -/
  clock : Option String

namespace CaptionParts

variable (c : CaptionParts)

/-- The model with its clock, if it names no frequency itself, or else a substitute for it. -/
def caption : String :=
  if firstKnown c.models = "" then firstKnown c.substitutes
  else
    match c.clock with
    | some clock =>
      if '@' ∈ (firstKnown c.models).toList then firstKnown c.models
      else firstKnown c.models ++ " @ " ++ clock
    | none => firstKnown c.models

/-- Whether a text is empty, a text that was told for the model, or one of these that is not empty
and names no frequency, followed by the clock. -/
def IsCaption (text : String) : Prop :=
  text = "" ∨ text ∈ c.models ++ c.substitutes ∨
    ∃ model ∈ c.models, model ≠ "" ∧ '@' ∉ model.toList ∧
      ∃ clock, c.clock = some clock ∧ text = model ++ " @ " ++ clock

/-- Whether there is a clock, and no model to go with it. -/
def HasBareClock : Prop := (∀ model ∈ c.models, model = "") ∧ c.clock ≠ none

instance : Decidable c.HasBareClock :=
  inferInstanceAs (Decidable ((∀ model ∈ c.models, model = "") ∧ c.clock ≠ none))

theorem isCaption_caption : c.IsCaption c.caption := by
  rw [caption]
  split
  · by_cases hsome : firstKnown c.substitutes = ""
    · exact .inl hsome
    · exact .inr (.inl (List.mem_append_right _ (firstKnown_mem hsome)))
  · rename_i hsome
    have hmem := firstKnown_mem hsome
    have hplain : c.IsCaption (firstKnown c.models) := .inr (.inl (List.mem_append_left _ hmem))
    split
    · rename_i clock hclock
      split
      · exact hplain
      · rename_i hmark
        exact .inr (.inr ⟨_, hmem, hsome, hmark, clock, hclock, rfl⟩)
    · exact hplain

theorem caption_nil (substitutes : List String) (clock : Option String) :
    caption { models := [], substitutes, clock } = firstKnown substitutes := if_pos rfl

/-- A clock alone is no caption. -/
theorem not_isCaption_of_hasBareClock {c : CaptionParts} (hbare : c.HasBareClock)
    (halone : c.substitutes = []) (clock : String) : ¬c.IsCaption (" @ " ++ clock) := by
  have hne : " @ " ++ clock ≠ "" := by simp [String.ext_iff]
  rintro (hempty | hmem | ⟨model, hmodel, hsome, -⟩)
  · exact hne hempty
  · rw [halone, List.append_nil] at hmem
    exact hne (hbare.1 _ hmem)
  · exact hsome (hbare.1 model hmodel)

/-- Substitutes stand in for a caption that is empty. -/
theorem chooseText_caption (models substitutes : List String) (clock : Option String) :
    chooseText (caption { models, clock }) (firstKnown substitutes) =
      caption { models, substitutes, clock } := by
  rw [caption, caption]
  by_cases hmodel : firstKnown models = ""
  · simp [hmodel, chooseText, firstKnown_nil]
  · simp only [if_neg hmodel, chooseText]
    cases clock with
    | none => simp [hmodel]
    | some clock =>
      dsimp only
      split
      · simp [hmodel]
      · simp [hmodel]

end CaptionParts

/-- A text that is told, if it is not empty. -/
def told? (text : String) : Option String := if text.isEmpty then none else some text

theorem getD_told? (text : String) : (told? text).getD "" = text := by
  rw [told?]
  split
  · rename_i hempty
    exact (String.isEmpty_iff.1 hempty).symm
  · rfl

/-- A clock with its unit, if it is told. -/
def clockText? (clock unit : String) : Option String :=
  if clock.isEmpty then none else some (clock ++ " " ++ unit)

/-- A clock from a table or a listing is only added to a model. -/
theorem withClock_eq (model clock unit : String) :
    withClock model clock unit =
      CaptionParts.caption { models := [model], clock := clockText? clock unit } := by
  have hshown : s!"{model} @ {clock} {unit}" = model ++ " @ " ++ (clock ++ " " ++ unit) := by
    rw [← String.append_assoc, ← String.append_assoc]
    rfl
  rw [withClock, CaptionParts.caption, firstKnown_singleton, clockText?, hshown]
  by_cases hmodel : model = ""
  · simp [hmodel, firstKnown]
  · by_cases hclock : clock = ""
    · simp [hmodel, hclock]
    · simp [hmodel, hclock]

/-- The speed from a profile is also added where there is no model. -/
theorem withSpeed_eq (models : List String) (speed : String) :
    let c : CaptionParts := { models, clock := told? speed }
    (c.HasBareClock → ∃ clock, c.clock = some clock ∧
        Platform.withSpeed (firstKnown models) speed = " @ " ++ clock) ∧
      (¬c.HasBareClock → Platform.withSpeed (firstKnown models) speed = c.caption) := by
  have hshown : ∀ model, s!"{model} @ {speed}" = model ++ " @ " ++ speed := fun _ => rfl
  simp only [Platform.withSpeed, hshown, CaptionParts.HasBareClock, CaptionParts.caption, told?,
    ← firstKnown_eq_empty_iff]
  by_cases hspeed : speed = ""
  · simp [hspeed, firstKnown_nil]
  · by_cases hmodel : firstKnown models = ""
    · simp [hspeed, hmodel]
    · simp [hspeed, hmodel]

/-! ## What every platform tells -/

theorem integerText_of_lt {n : Int} (hn : n.natAbs < Nat.pow 10 Numeral.maxDigits) :
    integerText n = .ok (toString n) := by
  unfold integerText Numeral.writeInt?
  generalize Nat.pow 10 Numeral.maxDigits = bound at hn ⊢
  rw [if_pos hn]

theorem integerText_of_not_lt {n : Int} (hn : ¬n.natAbs < Nat.pow 10 Numeral.maxDigits) :
    integerText n = .error .malformed := by
  unfold integerText Numeral.writeInt?
  generalize Nat.pow 10 Numeral.maxDigits = bound at hn ⊢
  rw [if_neg hn]

/-- Whether the operating system tells the number of processors or that it is not known, and the
number has no more digits than can be written. -/
def Host.CanCount (h : Host) : Prop :=
  ∃ count, h.cpuCount = .ok count ∧ ∀ n ∈ count, n.natAbs < Nat.pow 10 Numeral.maxDigits

namespace Platform

/-- The journal after a platform has looked whether the processor is virtual. -/
def kindJournal (j : Journal) : Platform → Journal
  | darwin => j.asking "sysctl" "kern.hv_vmm_present"
  | bsd sysctl => j.askingBy sysctl "kern.vm_guest"
  | _ => j

variable (p : Platform) (h : Host) (i : SystemInfo) (j : Journal)

theorem runFrom_processorTable :
    processorTable.runFrom h j = (.ok (ProcessorTable.ofText (h.textOf "/proc/cpuinfo")), j) := by
  rw [processorTable, runFrom_bind_of_ok h j (h.runFrom_readText j _), runFrom_pure]

theorem exists_runFrom_cpuType :
    ∃ kind, p.cpuType.runFrom h j = (.ok kind, kindJournal j p) := by
  have hvirtual : ∃ b, p.isVirtual.runFrom h j = (.ok b, kindJournal j p) := by
    cases p with
    | generic => exact ⟨_, rfl⟩
    | linux =>
      rw [isVirtual, runFrom_bind_of_ok h j (runFrom_processorTable h j)]
      exact ⟨_, rfl⟩
    | darwin =>
      rw [isVirtual, runFrom_bind_of_ok h j (h.runFrom_kernelVariable j _)]
      exact ⟨_, rfl⟩
    | bsd sysctl =>
      rw [isVirtual, runFrom_bind_of_ok h j (h.runFrom_kernelVariableBy j _ _)]
      exact ⟨_, rfl⟩
    | windows =>
      have hrow : (firstRow? "Win32_ComputerSystem").runFrom h j =
          (.ok (h.rows "Win32_ComputerSystem").head?, j) := rfl
      rw [isVirtual, runFrom_bind_of_ok h j hrow]
      cases (h.rows "Win32_ComputerSystem").head? <;> exact ⟨_, rfl⟩
  obtain ⟨b, hb⟩ := hvirtual
  rw [cpuType, runFrom_bind_of_ok h j hb]
  exact ⟨_, rfl⟩

/-- The number of processors is written, if there is one, unless it has too many digits. -/
theorem exists_runFrom_writeCores (count : Option Int) :
    ((∀ n ∈ count, n.natAbs < Nat.pow 10 Numeral.maxDigits) →
      ∃ cores, ∃ j' ∈ [j, kindJournal j p], (p.writeCores count).runFrom h i j =
        ((.ok (), { i with cpuCores := cores }), j')) ∧
      ((¬∀ n ∈ count, n.natAbs < Nat.pow 10 Numeral.maxDigits) →
        ∃ f, (p.writeCores count).runFrom h i j = ((.error f, i), j)) := by
  have hplain : ∃ cores, ∃ j' ∈ [j, kindJournal j p],
      (pure () : Collector Unit).runFrom h i j = ((.ok (), { i with cpuCores := cores }), j') :=
    ⟨i.cpuCores, j, List.mem_cons_self, rfl⟩
  cases count with
  | none => exact ⟨fun _ => hplain, fun hmany => absurd nofun hmany⟩
  | some n =>
    simp only [Option.mem_def, Option.some.injEq, forall_eq']
    rw [writeCores]
    by_cases hzero : n = 0
    · have hfew : n.natAbs < Nat.pow 10 Numeral.maxDigits := by
        rw [hzero]
        decide +kernel
      rw [if_pos hzero]
      exact ⟨fun _ => hplain, fun hmany => absurd hfew hmany⟩
    · rw [if_neg hzero, Collector.runFrom_bind, Collector.runFrom_ofExcept]
      constructor
      · intro hdigits
        obtain ⟨kind, hkind⟩ := exists_runFrom_cpuType p h j
        rw [integerText_of_lt hdigits]
        dsimp only
        rw [Collector.runFrom_lift_bind_of_ok h i j hkind]
        exact ⟨_, _, List.mem_cons_of_mem j List.mem_cons_self, rfl⟩
      · intro hdigits
        rw [integerText_of_not_lt hdigits]
        exact ⟨_, rfl⟩

/-- What every platform tells is written, unless the number of processors is refused or has too many
digits. -/
theorem exists_runFrom_writeCpuBasics :
    (h.CanCount → ∃ cores, ∃ j' ∈ [j, kindJournal j p], p.writeCpuBasics.runFrom h i j =
        ((.ok (), { i with cpuCores := cores, cpuModel := chooseText i.cpuModel h.processor }),
          j')) ∧
      (¬h.CanCount → ∃ f, p.writeCpuBasics.runFrom h i j = ((.error f, i), j)) := by
  rw [writeCpuBasics, Collector.runFrom_read_bind]
  cases hcount : h.cpuCount with
  | error f =>
    refine ⟨?_, fun _ => ⟨f, rfl⟩⟩
    rintro ⟨count, htold, -⟩
    exact nomatch hcount.symm.trans htold
  | ok count =>
    have hcan : h.CanCount ↔ ∀ n ∈ count, n.natAbs < Nat.pow 10 Numeral.maxDigits := by
      rw [Host.CanCount, hcount]
      simp only [Except.ok.injEq, exists_eq_left']
    obtain ⟨hfew, hmany⟩ := exists_runFrom_writeCores p h i j count
    rw [hcan, Collector.runFrom_bind_of_ok h i j (Collector.runFrom_ofExcept h i j (.ok count))]
    refine ⟨fun hdigits => ?_, fun hdigits => ?_⟩
    · obtain ⟨cores, j', hj', hrun⟩ := hfew hdigits
      rw [Collector.runFrom_bind_of_ok h i j hrun]
      exact ⟨cores, j', hj', rfl⟩
    · obtain ⟨f, hrun⟩ := hmany hdigits
      rw [Collector.runFrom_bind, hrun]
      exact ⟨f, rfl⟩

end Platform

/-! ## What each platform adds -/

namespace Collector

variable {view : SystemInfo → β}

/-- Whether a collector leaves a part of the record as it is, however it ends. -/
def Keeps (view : SystemInfo → β) (c : Collector α) : Prop :=
  ∀ h i j, view (c.runFrom h i j).1.2 = view i

theorem keeps_pure (x : α) : Keeps view (pure x) := fun _ _ _ => rfl

theorem keeps_lift (step : HostM α) : Keeps view (liftM step) := fun _ _ _ => rfl

theorem keeps_ofExcept (r : Except Fault α) : Keeps view (ofExcept r) := by
  intro h i j
  rw [runFrom_ofExcept]

theorem keeps_write {change : SystemInfo → SystemInfo} (hchange : ∀ i, view (change i) = view i) :
    Keeps view (write change) := fun _ i _ => hchange i

theorem Keeps.bind {c : Collector α} {γ : Type} {next : α → Collector γ} (hc : Keeps view c)
    (hnext : ∀ x, Keeps view (next x)) : Keeps view (c >>= next) := by
  intro h i j
  rcases runFrom_bind_cases h i j c next with ⟨f, -, hrun⟩ | ⟨x, -, hrun⟩
  · rw [hrun]
    exact hc h i j
  · rw [hrun]
    exact (hnext x h _ _).trans (hc h i j)

theorem keeps_write_bind {change : SystemInfo → SystemInfo} {next : Unit → Collector α}
    (hchange : ∀ i, view (change i) = view i) (hnext : Keeps view (next ())) :
    Keeps view (write change >>= next) := (keeps_write hchange).bind fun _ => hnext

/-- What is written into a part of the record stays, if the rest of the collector keeps it. -/
theorem view_runFrom_write_bind (view : SystemInfo → β) {change : SystemInfo → SystemInfo}
    {next : Unit → Collector α} (hnext : Keeps view (next ())) (h : Host) (i : SystemInfo)
    (j : Journal) :
    view ((write change >>= next).runFrom h i j).1.2 = view (change i) := by
  rw [runFrom_write_bind]
  exact hnext h (change i) j

end Collector

namespace Host

variable (h : Host) (j : Journal)

/-- The listing of the processor architecture that is told next. -/
def nextListing : ProcessorListing :=
  match h.toolNamed "lscpu" with
  | some tool => ProcessorListing.ofText (h.nextOutput j [tool, "-B"])
  | none => {}

/-- The name of the board. -/
def board : String :=
  let isMark (c : Char) := c == Char.ofNat 0 || c == '\n' || c == ' '
  String.ofList (Text.trim isMark (h.textOf "/proc/device-tree/model").toList)

theorem exists_runFrom_processorListing :
    ∃ j', processorListing.runFrom h j = (.ok (h.nextListing j), j') := by
  rw [processorListing, runFrom_bind_of_ok h j (h.runFrom_findTool j _), nextListing]
  cases h.toolNamed "lscpu" with
  | none => exact ⟨j, rfl⟩
  | some tool =>
    dsimp only
    rw [runFrom_bind_of_ok h j (runFrom_outputOf_next _ _ j)]
    exact ⟨_, rfl⟩

theorem runFrom_boardName : Platform.boardName.runFrom h j = (.ok h.board, j) := by
  rw [Platform.boardName, runFrom_bind_of_ok h j (h.runFrom_readText j _)]
  rfl

end Host

namespace Platform

variable (h : Host) (i : SystemInfo) (j : Journal)

/-- What a platform is told next of model and clock, where `base` is what every platform tells. -/
def captionParts (base : String) : Platform → CaptionParts
  | linux =>
    let table := ProcessorTable.ofText (h.textOf "/proc/cpuinfo")
    let listing := h.nextListing j
    { models := [table.model, listing.model]
      substitutes := [listing.vendor, h.board]
      clock := (clockText? table.clock "MHz").or (clockText? listing.clock listing.clockUnit) }
  | darwin =>
    let profile := h.nextProfile j
    let speed := profile.value "Processor Speed"
    { models := [profile.value "Chip", profile.value "Processor Name",
        h.nextValue j "sysctl" "machdep.cpu.brand_string", base]
      clock := told? speed }
  | bsd sysctl =>
    let model := h.nextVariable j sysctl "hw.model"
    { models := if 3 ≤ model.length then [model] else []
      substitutes := [base]
      clock := clockText? (h.nextVariable j sysctl "dev.cpu.0.freq") "MHz" }
  | windows =>
    let named? := (Row.texts (h.rows "Win32_Processor") "Name").toOption.bind longest?
    { models := []
      substitutes := [named?.getD base]
      clock := none }
  | generic =>
    { models := []
      substitutes := [base]
      clock := none }

/-- What a platform shows of model and clock. -/
def shown (c : CaptionParts) : Platform → String
  | darwin => withSpeed (firstKnown c.models) (c.clock.getD "")
  | _ => c.caption

theorem captionParts_kindJournal (base : String) (p : Platform) :
    p.captionParts h (kindJournal j p) base = p.captionParts h j base := by
  cases p with
  | darwin =>
    rw [captionParts, captionParts, kindJournal, h.nextProfile_asking,
      h.nextValue_asking j (by decide)]
  | bsd sysctl =>
    rw [captionParts, captionParts, kindJournal, h.nextVariable_askingBy j sysctl (by decide),
      h.nextVariable_askingBy j sysctl (by decide)]
  | _ => rfl

theorem linuxCpuModel_eq (table : ProcessorTable) (listing : ProcessorListing) (board : String) :
    linuxCpuModel table listing board =
      CaptionParts.caption
        { models := [table.model, listing.model]
          substitutes := [listing.vendor, board]
          clock := (clockText? table.clock "MHz").or
            (clockText? listing.clock listing.clockUnit) } := by
  have hclock : (if table.clock.isEmpty then
        withClock (chooseText table.model listing.model) listing.clock listing.clockUnit
      else withClock (chooseText table.model listing.model) table.clock) =
      CaptionParts.caption
        { models := [table.model, listing.model]
          clock := (clockText? table.clock "MHz").or
            (clockText? listing.clock listing.clockUnit) } := by
    rw [withClock_eq, withClock_eq, CaptionParts.caption, CaptionParts.caption,
      CaptionParts.caption, firstKnown_singleton, firstKnown_cons, firstKnown_singleton]
    by_cases htable : table.clock.isEmpty = true
    · have htold : clockText? table.clock "MHz" = none := if_pos htable
      rw [if_pos htable, htold, Option.none_or]
    · have htold : clockText? table.clock "MHz" = some (table.clock ++ " " ++ "MHz") :=
        if_neg htable
      rw [if_neg htable, htold, Option.some_or]
  rw [linuxCpuModel, hclock, chooseText_assoc,
    ← CaptionParts.chooseText_caption _ [listing.vendor, board], firstKnown_cons,
    firstKnown_singleton]

theorem cpuModel_writeLinuxCpu :
    (linux.writeLinuxCpu.runFrom h i j).1.2.cpuModel =
      (linux.captionParts h j i.cpuModel).caption := by
  obtain ⟨j', hlisting⟩ := h.exists_runFrom_processorListing j
  rw [writeLinuxCpu, Collector.runFrom_lift_bind_of_ok h i j (runFrom_processorTable h j),
    Collector.runFrom_lift_bind_of_ok h i j hlisting,
    Collector.runFrom_lift_bind_of_ok h i j' (h.runFrom_boardName j')]
  dsimp only
  rw [Collector.view_runFrom_write_bind SystemInfo.cpuModel, captionParts]
  · dsimp only
    rw [linuxCpuModel_eq]
  · exact (Collector.keeps_ofExcept _).bind fun _ => Collector.keeps_write fun _ => rfl

theorem cpuModel_writeBsdCpu (sysctl : Option String) :
    (((bsd sysctl).writeBsdCpu sysctl).runFrom h i j).1.2.cpuModel =
      ((bsd sysctl).captionParts h j i.cpuModel).caption := by
  rw [writeBsdCpu.eq_def,
    Collector.runFrom_lift_bind_of_ok h i j (h.runFrom_kernelVariableBy j _ _)]
  extract_lets writeFeatures writeCores
  have hfeatures : Collector.Keeps SystemInfo.cpuModel (writeFeatures ()) := by
    cases sysctl with
    | none => exact Collector.keeps_pure ()
    | some tool =>
      exact (Collector.keeps_lift _).bind fun _ => Collector.keeps_write fun _ => rfl
  have hcores : Collector.Keeps SystemInfo.cpuModel (writeCores ()) := by
    refine Collector.Keeps.bind (fun _ _ _ => rfl) fun info => ?_
    split
    · refine (Collector.keeps_lift _).bind fun count => ?_
      split
      · exact Collector.keeps_write_bind (fun _ => rfl) hfeatures
      · exact hfeatures
    · exact hfeatures
  rw [captionParts]
  by_cases hlong : 3 ≤ (h.nextVariable j sysctl "hw.model").length
  · have hmodel : h.nextVariable j sysctl "hw.model" ≠ "" := by
      intro hempty
      rw [hempty] at hlong
      exact absurd hlong (by decide)
    rw [if_pos hlong, if_pos hlong,
      Collector.runFrom_lift_bind_of_ok h i _ (h.runFrom_kernelVariableBy _ _ _),
      Collector.view_runFrom_write_bind SystemInfo.cpuModel hcores,
      h.nextVariable_askingBy j sysctl (by decide)]
    dsimp only
    rw [withClock_eq, CaptionParts.caption, CaptionParts.caption, firstKnown_singleton,
      if_neg hmodel, if_neg hmodel]
  · rw [if_neg hlong, if_neg hlong, hcores h i _, CaptionParts.caption, firstKnown_singleton]
    rfl

theorem cpuModel_writeMacCpu :
    (darwin.writeMacCpu.runFrom h i j).1.2.cpuModel =
      darwin.shown (darwin.captionParts h j i.cpuModel) := by
  obtain ⟨j', hprofile, hvalue⟩ := h.exists_runFrom_macProfile_next j
  rw [writeMacCpu, Collector.runFrom_lift_bind_of_ok h i j hprofile]
  extract_lets named size writeFeatures
  have hfeatures : ∀ model i k, ((writeFeatures model).runFrom h i k).1.2.cpuModel =
      withSpeed model ((h.nextProfile j).value "Processor Speed") := by
    intro model i k
    refine (Collector.view_runFrom_write_bind SystemInfo.cpuModel ?_ h i k).trans rfl
    refine (Collector.keeps_lift _).bind fun l1d => ?_
    refine (Collector.keeps_lift _).bind fun l1i => ?_
    refine (Collector.keeps_lift _).bind fun l2 => ?_
    refine (Collector.keeps_lift _).bind fun l3 => ?_
    refine (Collector.keeps_ofExcept _).bind fun caches => ?_
    refine Collector.keeps_write_bind (fun _ => rfl) ?_
    exact (Collector.keeps_lift _).bind fun _ => Collector.keeps_write fun _ => rfl
  have hmodels : firstKnown (darwin.captionParts h j i.cpuModel).models =
      chooseText named (chooseText (h.nextValue j "sysctl" "machdep.cpu.brand_string")
        i.cpuModel) := by
    rw [captionParts, firstKnown_cons, firstKnown_cons, firstKnown_cons, firstKnown_singleton,
      ← chooseText_assoc]
  have hspeed : (darwin.captionParts h j i.cpuModel).clock.getD "" =
      (h.nextProfile j).value "Processor Speed" := getD_told? _
  rw [shown, hmodels, hspeed]
  by_cases hnamed : named.isEmpty = true
  · rw [if_pos hnamed, Collector.runFrom_lift_bind_of_ok h i j' (h.runFrom_kernelVariable j' _),
      Collector.runFrom_record_bind, pure_bind, hfeatures, hvalue, chooseText_of_isEmpty hnamed]
  · rw [if_neg hnamed, pure_bind, hfeatures, chooseText_of_not_isEmpty hnamed]

theorem cpuModel_writeWindowsCpu :
    (windows.writeWindowsCpu.runFrom h i j).1.2.cpuModel =
      (windows.captionParts h j i.cpuModel).caption := by
  have hrows : (managementRows "Win32_Processor").runFrom h j =
      (.ok (h.rows "Win32_Processor"), j) := rfl
  rw [writeWindowsCpu, Collector.runFrom_lift_bind_of_ok h i j hrows, captionParts,
    CaptionParts.caption_nil, firstKnown_singleton]
  cases Row.texts (h.rows "Win32_Processor") "Name" with
  | error f => rfl
  | ok names =>
    rw [Collector.runFrom_bind_of_ok h i j (Collector.runFrom_ofExcept h i j (.ok names))]
    extract_lets writeCaches
    have hcaches : Collector.Keeps SystemInfo.cpuModel (writeCaches ()) := by
      refine (Collector.keeps_lift _).bind fun _ => ?_
      refine (Collector.keeps_ofExcept _).bind fun _ => ?_
      refine Collector.keeps_write_bind (fun _ => rfl) ?_
      refine (Collector.keeps_lift _).bind fun _ => ?_
      refine Collector.keeps_write_bind (fun _ => rfl) ?_
      exact (Collector.keeps_lift _).bind fun _ => Collector.keeps_write fun _ => rfl
    rw [Except.toOption, Option.bind_some]
    cases longest? names with
    | none => exact hcaches h i j
    | some model =>
      exact (Collector.view_runFrom_write_bind SystemInfo.cpuModel hcaches h i j).trans rfl

/-! ## The collector -/

/-- What is shown of model and clock is put together from what is told of them next. -/
theorem cpuModel_collectCpu {h : Host} (hcount : h.CanCount) (p : Platform) (i : SystemInfo)
    (j : Journal) :
    (p.collectCpu.runFrom h i j).1.2.cpuModel =
      p.shown (p.captionParts h j (chooseText i.cpuModel h.processor)) := by
  obtain ⟨cores, j', hj', hbasics⟩ := (exists_runFrom_writeCpuBasics p h i j).1 hcount
  have hparts : p.captionParts h j' (chooseText i.cpuModel h.processor) =
      p.captionParts h j (chooseText i.cpuModel h.processor) := by
    rcases List.mem_pair.1 hj' with rfl | rfl
    · rfl
    · exact captionParts_kindJournal h j _ p
  rw [collectCpu.eq_def, Collector.runFrom_bind_of_ok h i j hbasics, ← hparts]
  cases p with
  | generic =>
    have hshown : generic.shown (generic.captionParts h j' (chooseText i.cpuModel h.processor)) =
        chooseText i.cpuModel h.processor :=
      (CaptionParts.caption_nil _ _).trans (firstKnown_singleton _)
    rw [hshown]
    rfl
  | linux => exact cpuModel_writeLinuxCpu h _ j'
  | darwin => exact cpuModel_writeMacCpu h _ j'
  | bsd sysctl => exact cpuModel_writeBsdCpu h _ j' sysctl
  | windows => exact cpuModel_writeWindowsCpu h _ j'

/-- Whether a platform shows a clock with no model before it. -/
def ShowsBareClock (p : Platform) (c : CaptionParts) : Prop := p = darwin ∧ c.HasBareClock

instance (p : Platform) (c : CaptionParts) : Decidable (p.ShowsBareClock c) :=
  inferInstanceAs (Decidable (p = darwin ∧ c.HasBareClock))

/-- A caption is shown, unless the speed of a Mac is told and its model is not. -/
theorem shown_captionParts (p : Platform) (h : Host) (j : Journal) (base : String) :
    let c := p.captionParts h j base
    (p.ShowsBareClock c → ∃ clock, c.clock = some clock ∧ p.shown c = " @ " ++ clock) ∧
      (¬p.ShowsBareClock c → p.shown c = c.caption) := by
  intro c
  have hother : p ≠ darwin → p.shown c = c.caption → (p.ShowsBareClock c → ∃ clock,
      c.clock = some clock ∧ p.shown c = " @ " ++ clock) ∧
        (¬p.ShowsBareClock c → p.shown c = c.caption) :=
    fun hp hshown => ⟨fun hbare => absurd hbare.1 hp, fun _ => hshown⟩
  cases p with
  | darwin =>
    have hspeed : c.clock.getD "" = (h.nextProfile j).value "Processor Speed" := getD_told? _
    have hboth := withSpeed_eq c.models ((h.nextProfile j).value "Processor Speed")
    rw [shown, hspeed]
    exact ⟨fun hbare => hboth.1 hbare.2, fun hbare => hboth.2 fun hclock => hbare ⟨rfl, hclock⟩⟩
  | generic => exact hother nofun rfl
  | linux => exact hother nofun rfl
  | bsd sysctl => exact hother nofun rfl
  | windows => exact hother nofun rfl

/-- Suppose that the number of processors, if it is known, can be written.  What is shown of model
and clock is then a caption: empty, a text that is told for the model, or one of these that is not
empty and names no frequency, with the clock behind it.  There is one exception, and no other: a Mac
whose profile tells a speed, and of which no model is told, shows the speed behind nothing.  A
number of processors that is refused or cannot be written leaves the record as it was. -/
theorem cpuModel_isCaption_iff (p : Platform) (h : Host) (i : SystemInfo) (j : Journal) :
    let c := p.captionParts h j (chooseText i.cpuModel h.processor)
    let text := (p.collectCpu.runFrom h i j).1.2.cpuModel
    (h.CanCount → (c.IsCaption text ↔ ¬p.ShowsBareClock c) ∧
        (¬p.ShowsBareClock c → text = c.caption) ∧
          (p.ShowsBareClock c → ∃ clock, c.clock = some clock ∧ text = " @ " ++ clock)) ∧
      (¬h.CanCount → text = i.cpuModel) := by
  intro c text
  obtain ⟨hbareShown, hshown⟩ := shown_captionParts p h j (chooseText i.cpuModel h.processor)
  refine ⟨fun hcount => ?_, fun hmany => ?_⟩
  · rw [show text = p.shown c from cpuModel_collectCpu hcount p i j]
    refine ⟨?_, hshown, hbareShown⟩
    by_cases hbare : p.ShowsBareClock c
    · obtain ⟨clock, -, htext⟩ := hbareShown hbare
      obtain ⟨rfl, hclock⟩ := hbare
      rw [htext]
      exact iff_of_false (CaptionParts.not_isCaption_of_hasBareClock hclock rfl clock)
        (not_not.2 ⟨rfl, hclock⟩)
    · rw [hshown hbare]
      exact iff_of_true (CaptionParts.isCaption_caption c) hbare
  · obtain ⟨f, hbasics⟩ := (exists_runFrom_writeCpuBasics p h i j).2 hmany
    have hrun : p.collectCpu.runFrom h i j = ((.error f, i), j) := by
      rw [collectCpu.eq_def, Collector.runFrom_bind, hbasics]
    rw [show text = _ from congrArg (fun run => run.1.2.cpuModel) hrun]

/-- A Mac whose profile tells model and speed apart. -/
def intelMac : Host where
  system := "Darwin"
  commands := [("system_profiler SPHardwareDataType",
    [.exited 0 "Processor Name: Dual-Core Intel Core i5\nProcessor Speed: 2.3 GHz\n" ""])]

theorem cpuModel_isCaption_intelMac :
    intelMac.CanCount ∧
      ¬darwin.ShowsBareClock (darwin.captionParts intelMac {} (chooseText "" intelMac.processor)) ∧
        (darwin.collectCpu.runFrom intelMac {} {}).1.2.cpuModel =
          "Dual-Core Intel Core i5 @ 2.3 GHz" := by
  have hcount : intelMac.CanCount := ⟨none, rfl, nofun⟩
  have hmodel : ¬darwin.ShowsBareClock
      (darwin.captionParts intelMac {} (chooseText "" intelMac.processor)) := by
    decide +kernel
  have hshown := ((cpuModel_isCaption_iff darwin intelMac {} {}).1 hcount).2.1 hmodel
  refine ⟨hcount, hmodel, hshown.trans ?_⟩
  decide +kernel

/-- A Mac whose profile tells a speed and no model. -/
def macWithoutModel : Host where
  system := "Darwin"
  commands := [("system_profiler SPHardwareDataType", [.exited 0 "Processor Speed: 2.3 GHz\n" ""])]

/-- The speed is shown without a model, and so as no caption. -/
theorem not_isCaption_macWithoutModel :
    (darwin.collectCpu.runFrom macWithoutModel {} {}).1.2.cpuModel = " @ 2.3 GHz" ∧
      ¬(darwin.captionParts macWithoutModel {} "").IsCaption " @ 2.3 GHz" := by
  have hbare : (darwin.captionParts macWithoutModel {} "").HasBareClock := by decide +kernel
  refine ⟨by decide +kernel, ?_⟩
  exact CaptionParts.not_isCaption_of_hasBareClock hbare rfl "2.3 GHz"

end Platform

end HostReport
