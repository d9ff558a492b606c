import HostReport.Collector.Gpu
import HostReport.Proofs.Collector.Faults
import HostReport.Proofs.Host.Look

/-!
# What collectors look at

Each step by which a collector looks at a host only looks: what it finds on a host whose facts do
not change does not depend on what was looked at before, and nothing that is in view of a collector
is changed by it.  Most of these steps never fail; those that do fail by faults of the platform.
-/

namespace HostReport

open HostM

variable {h : Host} {fault : Fault → Prop}

/-! ## Kernel, management and registry -/

theorem looksAt_managementRows (name : String) : LooksAt h fault (managementRows name) :=
  looksAt_read_bind (looksAt_pure _)

theorem eq_rows_of_mayGive {name : String} {rows : List Row}
    (hrows : (managementRows name).MayGive h rows) : rows = h.rows name := by
  obtain ⟨j, hgiven⟩ := hrows
  exact (Except.ok.inj hgiven).symm

theorem looksAt_managementRows_bind {α : Type} {name : String} {next : List Row → HostM α}
    (hnext : LooksAt h fault (next (h.rows name))) :
    LooksAt h fault (managementRows name >>= next) := by
  refine (looksAt_managementRows name).bind fun rows hrows => ?_
  rw [eq_rows_of_mayGive hrows]
  exact hnext

theorem looksAt_firstRow?_bind {α : Type} {name : String} {next : Option Row → HostM α}
    (hnext : LooksAt h fault (next (h.rows name).head?)) :
    LooksAt h fault (firstRow? name >>= next) := by
  rw [firstRow?, bind_assoc]
  refine looksAt_managementRows_bind ?_
  rw [pure_bind]
  exact hnext

theorem looksAt_registryFlag (key name : String) : LooksAt h fault (registryFlag key name) := by
  refine looksAt_read_bind ?_
  split
  · exact looksAt_pure _
  · exact looksAt_pure _

theorem looksAt_kernelVariable (name : String) : LooksAt h fault (kernelVariable name) :=
  (Host.looksAt_outputOf _ _).map _

theorem looksAt_kernelVariableBy (sysctl : Option String) (name : String) :
    LooksAt h fault (kernelVariableBy sysctl name) := by
  cases sysctl with
  | none => exact looksAt_pure _
  | some tool => exact (Host.looksAt_outputOf _ _).map _

/-- What a tool tells, if there is the tool. -/
theorem looksAt_askTool {α : Type} (name : String) (words : String → List String)
    (tell : String → α) (otherwise : α) :
    LooksAt h fault (do
      match ← Host.findTool name with
      | some tool => return tell (← Host.outputOf (words tool))
      | none => return otherwise) := by
  refine (Host.looksAt_findTool name).bind fun tool _ => ?_
  cases tool with
  | none => exact looksAt_pure _
  | some tool => exact (Host.looksAt_outputOf _ _).map _

/-! ## Processor -/

theorem looksAt_processorTable : LooksAt h fault processorTable :=
  (Host.looksAt_readText _).map _

theorem looksAt_processorListing : LooksAt h fault processorListing :=
  looksAt_askTool "lscpu" (fun tool => [tool, "-B"]) ProcessorListing.ofText {}

namespace Platform

theorem looksAt_isVirtual (p : Platform) : LooksAt h fault p.isVirtual := by
  cases p with
  | generic => exact looksAt_pure _
  | linux => exact looksAt_processorTable.map _
  | darwin => exact (looksAt_kernelVariable _).map _
  | bsd sysctl => exact (looksAt_kernelVariableBy sysctl _).map _
  | windows =>
    refine looksAt_firstRow?_bind ?_
    cases (h.rows "Win32_ComputerSystem").head? with
    | none => exact looksAt_pure _
    | some row => exact looksAt_pure _

theorem looksAt_cpuType (p : Platform) : LooksAt h fault p.cpuType :=
  (looksAt_isVirtual p).map _

theorem looksAt_boardName : LooksAt h fault boardName :=
  (Host.looksAt_readText _).map _

theorem looksAt_windowsVirtualization (p : Platform) (processors : List Row) :
    LooksAt h fault (p.windowsVirtualization processors) := by
  refine (looksAt_registryFlag _ _).bind fun isSet _ => ?_
  split
  · exact looksAt_pure _
  split
  · exact looksAt_pure _
  split
  · exact looksAt_pure _
  · exact (looksAt_registryFlag _ _).map _

/-! ## Disks -/

theorem looksAt_usageOrNothing (p : Platform) (mountpoint : String) :
    LooksAt h (p.Raises h) (usageOrNothing mountpoint) :=
  looksAt_of_run (fun j => h.runFrom_usageOrNothing j mountpoint) fun f hf =>
    .refused (.filesystem mountpoint (h.failsOnly_measured mountpoint f hf).1)

/-- The sum that is counted is out of range where it is out of range of all that is told. -/
theorem looksAt_totalUsage (p : Platform) {partitions : List Partition}
    (hpartitions : h.partitions = .ok partitions) :
    LooksAt h (p.Raises h) (totalUsage (countedPartitions partitions)) := by
  refine looksAt_of_run (fun j => h.runFrom_totalUsage j _) fun f hf => ?_
  rcases h.failsOnly_measuredTotal _ f hf with ⟨q, -, hrefused, -⟩ | ⟨rfl, hnone⟩
  · exact .refused (.filesystem q.mountpoint hrefused)
  · refine .range fun hrange => ?_
    obtain ⟨counted, hcounted⟩ := hrange.counted partitions hpartitions
    exact hnone counted hcounted

/-- What is counted is the sum of what is told. -/
theorem countedUsage_of_mayGive {partitions : List Partition} {counted : Usage}
    (hcounted : (totalUsage (countedPartitions partitions)).MayGive h counted) :
    h.countedUsage partitions = .ok counted := by
  obtain ⟨j, hgiven⟩ := hcounted
  rw [h.runFrom_totalUsage] at hgiven
  exact ((h.measuredTotal_eq_ok_iff _ counted).1 hgiven).2

theorem looksAt_rootUsage (p : Platform) : LooksAt h fault p.rootUsage := by
  cases p with
  | linux => exact (Host.looksAt_outputOf _ _).map _
  | _ => exact looksAt_pure _

theorem looksAt_usageOrRoot (p : Platform) (counted : Usage) :
    LooksAt h fault (p.usageOrRoot counted) := by
  rw [usageOrRoot]
  split
  · exact (looksAt_rootUsage p).map _
  · exact looksAt_pure _

theorem looksAt_firstSized (p : Platform) (partitions : List Partition) :
    LooksAt h (p.Raises h) (firstSized partitions) := by
  induction partitions with
  | nil => exact looksAt_pure _
  | cons q partitions ih =>
    rw [firstSized]
    split
    · exact ih
    · refine (looksAt_usageOrNothing p _).bind fun u _ => ?_
      split
      · exact looksAt_pure _
      · exact ih

theorem looksAt_bootPath (p : Platform) : LooksAt h (p.Raises h) bootPath :=
  looksAt_read_bind (looksAt_ofExcept_bind (fun _ hf => .refused (.allPartitions hf))
    fun _ _ => looksAt_firstSized p _)

/-! ## Texts of management rows -/

/-- A member that is shown as a text and is none is a fault on Windows. -/
theorem raises_wrongKind {className name : String} (hmember : (className, name) ∈ Host.textMembers)
    {r : Row} (hr : r ∈ h.rows className) (v : Json) (hv : r.lookup name = some v)
    (hkind : ¬v.IsTextOrNothing) : windows.Raises h .wrongKind :=
  .kind rfl fun hall => hkind (hall _ hmember r hr v hv)

/-- The text of the member of a first row, or else what there is otherwise. -/
theorem looksAt_firstText {className name : String} {otherwise : HostM String}
    (hmember : (className, name) ∈ Host.textMembers)
    (hotherwise : LooksAt h (windows.Raises h) otherwise) :
    LooksAt h (windows.Raises h) (do
      match ← firstRow? className with
      | none => otherwise
      | some row =>
        match ← HostM.ofExcept (row.text? name) with
        | some text => return text
        | none => otherwise) := by
  refine looksAt_firstRow?_bind ?_
  cases hrow : (h.rows className).head? with
  | none => exact hotherwise
  | some row =>
    have hkind := raises_wrongKind hmember (List.mem_of_head? hrow)
    refine looksAt_ofExcept_bind (Row.failsOnly_text? (.tolerated rfl) hkind) fun text _ => ?_
    cases text with
    | none => exact hotherwise
    | some text => exact looksAt_pure _

/-! ## Graphics devices -/

theorem looksAt_gpuModels (p : Platform) : LooksAt h (p.Raises h) p.gpuModels := by
  cases p with
  | linux =>
    exact looksAt_askTool "lspci" (fun tool => [tool, "-mm"]) Graphics.ofBusListing []
  | darwin => exact (Host.looksAt_outputOf _ _).map _
  | windows =>
    refine looksAt_managementRows_bind (looksAt_ofExcept ?_)
    exact Row.failsOnly_texts (.tolerated rfl) fun r hr => raises_wrongKind (by decide) hr
  | generic => exact looksAt_pure _
  | bsd sysctl => exact looksAt_pure _

theorem looksAt_askUtilization (tool : String) (attempts : Nat) :
    LooksAt h fault (askUtilization tool attempts) := by
  induction attempts with
  | zero => exact looksAt_pure _
  | succ attempts ih =>
    refine (Host.looksAt_outputOf _ _).bind fun listing _ => ?_
    split
    · exact looksAt_pure _
    · dsimp only
      split
      · exact Host.looksAt_sleep.bind fun _ _ => ih
      · exact ih

theorem looksAt_gpuUtilization : LooksAt h fault gpuUtilization := by
  refine (Host.looksAt_findTool "nvidia-smi").bind fun tool _ => ?_
  cases tool with
  | none => exact looksAt_pure _
  | some tool => exact looksAt_askUtilization tool _

/-! ## Operating system and kernel -/

theorem looksAt_systemName : LooksAt h fault systemName :=
  looksAt_read_bind (looksAt_pure _)

theorem looksAt_releaseName (paths : List String) : LooksAt h fault (releaseName paths) := by
  induction paths with
  | nil => exact looksAt_pure _
  | cons path paths ih =>
    refine (Host.looksAt_readText path).bind fun text _ => ?_
    dsimp only
    split
    · exact ih
    · exact looksAt_pure _

theorem looksAt_systemCaption (p : Platform) : LooksAt h (p.Raises h) p.systemCaption := by
  cases p with
  | linux =>
    refine (looksAt_releaseName _).bind fun name _ => ?_
    split
    · exact looksAt_systemName
    · exact looksAt_pure _
  | darwin =>
    refine looksAt_read_bind ?_
    dsimp only
    split
    · exact looksAt_systemName
    · exact looksAt_pure _
  | windows => exact looksAt_firstText (by decide) looksAt_systemName
  | generic => exact looksAt_systemName
  | bsd sysctl => exact looksAt_systemName

theorem looksAt_kernelRelease (p : Platform) : LooksAt h fault p.kernelRelease := by
  cases p with
  | linux =>
    exact (Host.looksAt_outputOf _ _).bind fun _ _ => looksAt_read_bind (looksAt_pure _)
  | _ => exact looksAt_read_bind (looksAt_pure _)

/-! ## Time and load -/

theorem looksAt_startTime (p : Platform) : LooksAt h (p.Raises h) startTime := by
  refine LooksAt.orElseOn ?_ (looksAt_pure _)
  refine looksAt_read_bind (looksAt_ofExcept_bind (fun f hf _ => ?_) fun _ _ => looksAt_pure _)
  exact .refused (.start hf)

theorem failsOnly_startOfListing (listing : String) (hf : fault .malformed) :
    FailsOnly (startOfListing listing) fault := by
  rw [startOfListing]
  split
  · exact failsOnly_ok _
  split
  · exact failsOnly_ok _
  · exact failsOnly_error hf

theorem looksAt_bootTime (p : Platform) : LooksAt h (p.Raises h) p.bootTime := by
  cases p with
  | bsd sysctl =>
    refine (looksAt_kernelVariableBy sysctl _).bind fun listing _ => ?_
    refine looksAt_ofExcept_bind (failsOnly_startOfListing _ (.tolerated rfl)) fun start _ => ?_
    cases start with
    | none => exact looksAt_startTime _
    | some n => exact looksAt_pure _
  | _ => exact looksAt_startTime _

/-- Mean loads are those that the operating system tells, or zeros. -/
theorem loads_of_mayGive {tolerated : Fault → Bool} {loads : Loads}
    (hloads : (HostM.orElseOn tolerated (HostM.ofExcept h.loadAverage) (pure (0, 0, 0))).MayGive h
      loads) : h.loadAverage = .ok loads ∨ loads = (0, 0, 0) := by
  obtain ⟨j, hgiven⟩ := hloads
  rw [runFrom_orElseOn, runFrom_ofExcept] at hgiven
  cases htold : h.loadAverage with
  | ok loads' =>
    rw [htold] at hgiven
    exact .inl hgiven
  | error f =>
    rw [htold] at hgiven
    dsimp only at hgiven
    split at hgiven
    · exact .inr (Except.ok.inj hgiven).symm
    · exact nomatch hgiven

theorem looksAt_systemLoads (p : Platform) : LooksAt h (p.Raises h) systemLoads := by
  refine looksAt_read_bind (LooksAt.bind (LooksAt.orElseOn (looksAt_ofExcept fun f hf _ =>
    .refused (.loads hf)) (looksAt_pure _)) fun loads hloads => looksAt_ofExcept fun f hf => ?_)
  obtain rfl := failsOnly_doubleLoads loads f hf
  refine .range fun hrange => ?_
  have hdoubles : ∃ doubles, doubleLoads loads = .ok doubles := by
    rcases loads_of_mayGive hloads with htold | rfl
    · exact hrange.loads loads htold
    · exact ⟨(0, 0, 0), by decide +kernel⟩
  obtain ⟨doubles, hok⟩ := hdoubles
  exact nomatch hf.symm.trans hok

theorem looksAt_meanLoads (p : Platform) : LooksAt h (p.Raises h) p.meanLoads := by
  cases p with
  | linux =>
    refine (Host.looksAt_readText _).bind fun text _ => ?_
    split
    · exact looksAt_pure _
    · exact looksAt_systemLoads _
  | _ => exact looksAt_systemLoads _

theorem looksAt_linkedZone {abbreviation : HostM String} (hlooks : LooksAt h fault abbreviation) :
    LooksAt h fault (linkedZone abbreviation) := by
  refine (Host.looksAt_realPath _).bind fun path _ => ?_
  dsimp only
  split
  · exact hlooks
  · exact looksAt_pure _

theorem looksAt_commonZone : LooksAt h fault commonZone :=
  looksAt_linkedZone (looksAt_read_bind (looksAt_pure _))

theorem looksAt_listedZone : LooksAt h fault listedZone :=
  looksAt_askTool "timedatectl" (fun tool => [tool]) zoneOfListing ""

theorem looksAt_timeZone (p : Platform) : LooksAt h (p.Raises h) p.timeZone := by
  cases p with
  | linux =>
    refine looksAt_listedZone.bind fun zone _ => ?_
    split
    · exact looksAt_linkedZone ((Host.looksAt_outputOf _ _).map _)
    · exact looksAt_pure _
  | windows => exact looksAt_firstText (by decide) looksAt_commonZone
  | generic => exact looksAt_commonZone
  | darwin => exact looksAt_commonZone
  | bsd sysctl => exact looksAt_commonZone

/-! ## Kind of machine -/

theorem looksAt_detectedVirtual : LooksAt h fault detectedVirtual :=
  looksAt_askTool "systemd-detect-virt" (fun tool => [tool]) virtualName ""

theorem looksAt_firmwareFamily : LooksAt h fault firmwareFamily :=
  looksAt_askTool "dmidecode" (fun tool => [tool, "-t", "system"]) familyOfListing ""

theorem looksAt_isContainer : LooksAt h fault isContainer := by
  refine (Host.looksAt_pathExists _).bind fun isMarked _ => ?_
  split
  · exact looksAt_pure _
  · exact (Host.looksAt_readText _).map _

theorem looksAt_linuxMachine : LooksAt h fault linuxMachine := by
  refine looksAt_detectedVirtual.bind fun detected _ => ?_
  split
  · exact looksAt_pure _
  refine (Host.looksAt_pathExists _).bind fun isSubsystem _ => ?_
  split
  · exact looksAt_pure _
  refine looksAt_isContainer.bind fun isContainer _ => ?_
  split
  · exact looksAt_pure _
  · exact looksAt_firmwareFamily.map _

/-- A member of a first row that may be missing, as there may be no row. -/
theorem failsOnly_firstTextOrEmpty {className name : String}
    (hmember : (className, name) ∈ Host.textMembers) :
    FailsOnly ((h.rows className).head?.elim (.ok "") (·.textOrEmpty name)) (windows.Raises h) := by
  cases hrow : (h.rows className).head? with
  | none => exact failsOnly_ok _
  | some row =>
    exact Row.failsOnly_textOrEmpty (raises_wrongKind hmember (List.mem_of_head? hrow))

theorem looksAt_windowsMachine : LooksAt h (windows.Raises h) windowsMachine := by
  refine looksAt_firstRow?_bind (looksAt_firstRow?_bind ?_)
  refine looksAt_ofExcept_bind (failsOnly_firstTextOrEmpty (by decide)) fun _ _ => ?_
  refine looksAt_ofExcept_bind (failsOnly_firstTextOrEmpty (by decide)) fun _ _ => ?_
  exact looksAt_pure _

theorem looksAt_machineKind (p : Platform) : LooksAt h (p.Raises h) p.machineKind := by
  cases p with
  | generic => exact looksAt_pure _
  | linux => exact looksAt_linuxMachine
  | darwin => exact looksAt_macProfile.map _
  | bsd sysctl => exact (looksAt_kernelVariableBy sysctl _).map _
  | windows => exact looksAt_windowsMachine

/-! ## Network stack -/

theorem looksAt_tcpAcceleration (p : Platform) : LooksAt h fault p.tcpAcceleration := by
  cases p with
  | linux =>
    refine (Host.looksAt_findTool "sysctl").bind fun tool _ => ?_
    cases tool with
    | none => exact (Host.looksAt_readText _).map _
    | some tool => exact (Host.looksAt_outputOf _ _).map _
  | bsd sysctl => exact looksAt_kernelVariableBy sysctl _
  | generic => exact looksAt_pure _
  | darwin => exact looksAt_pure _
  | windows => exact looksAt_pure _

end Platform

end HostReport
