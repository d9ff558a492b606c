import HostReport.Collector.Memory
import HostReport.Proofs.Collector.Looking

/-!
# What collectors write

A collector is local to its aspect if, beyond what a step without a record has to keep to, it writes
only fields of this aspect, whatever the record holds before and however the collector ends.  Each
collector of each platform writes only such fields, and for the rest only looks: one lemma for each
part that a collector is made of, so that a field written out of place, or a fault that is not
foreseen, shows where it is.
-/

namespace HostReport

variable {α β : Type}

namespace Collector

/-- What a collector gives on a host, the record that it leaves, and the journal. -/
def runFrom (c : Collector α) (h : Host) (i : SystemInfo) (j : Journal) :
    (Except Fault α × SystemInfo) × Journal :=
  ((c h).run.run i).run j

section

variable (h : Host) (i : SystemInfo) (j : Journal)

/-- A fault ends a collector, and the record stays as the fault found it. -/
theorem runFrom_bind (c : Collector α) (next : α → Collector β) :
    (c >>= next).runFrom h i j =
      match c.runFrom h i j with
      | ((.ok x, i), j) => (next x).runFrom h i j
      | ((.error f, i), j) => ((.error f, i), j) := by
  change (((c h >>= fun x => next x h).run).run i).run j = _
  rw [ExceptT.run_bind, StateT.run_bind, StateT.run_bind, runFrom]
  rcases StateT.run (StateT.run (c h).run i) j with ⟨⟨f | x, i'⟩, j'⟩
  · rfl
  · rfl

/-- A sequence of two collectors goes as far as the first one takes it. -/
theorem runFrom_bind_cases (c : Collector α) (next : α → Collector β) :
    (∃ f, (c.runFrom h i j).1.1 = .error f ∧ (c >>= next).runFrom h i j =
      ((.error f, (c.runFrom h i j).1.2), (c.runFrom h i j).2)) ∨
    ∃ x, (c.runFrom h i j).1.1 = .ok x ∧ (c >>= next).runFrom h i j =
      (next x).runFrom h (c.runFrom h i j).1.2 (c.runFrom h i j).2 := by
  rw [runFrom_bind]
  rcases c.runFrom h i j with ⟨⟨f | x, i'⟩, j'⟩
  · exact .inl ⟨f, rfl, rfl⟩
  · exact .inr ⟨x, rfl, rfl⟩

/-- A step without a record leaves it. -/
theorem runFrom_lift (step : HostM α) :
    (liftM step : Collector α).runFrom h i j =
      (((step.runFrom h j).1, i), (step.runFrom h j).2) := rfl

theorem runFrom_ofExcept (r : Except Fault α) : (ofExcept r).runFrom h i j = ((r, i), j) := by
  cases r <;> rfl

theorem runFrom_read_bind (next : Host → Collector β) :
    (read >>= next).runFrom h i j = (next h).runFrom h i j := rfl

theorem runFrom_record_bind (next : SystemInfo → Collector β) :
    (getThe SystemInfo >>= next).runFrom h i j = (next i).runFrom h i j := rfl

theorem runFrom_write_bind (change : SystemInfo → SystemInfo) (next : Unit → Collector β) :
    (write change >>= next).runFrom h i j = (next ()).runFrom h (change i) j := rfl

theorem runFrom_bind_of_ok {c : Collector α} {x : α} {i' : SystemInfo} {j' : Journal}
    (hc : c.runFrom h i j = ((.ok x, i'), j')) (next : α → Collector β) :
    (c >>= next).runFrom h i j = (next x).runFrom h i' j' := by
  rw [runFrom_bind, hc]

theorem runFrom_lift_bind_of_ok {step : HostM α} {x : α} {j' : Journal}
    (hstep : step.runFrom h j = (.ok x, j')) (next : α → Collector β) :
    (liftM step >>= next).runFrom h i j = (next x).runFrom h i j' :=
  runFrom_bind_of_ok h i j (by rw [runFrom_lift, hstep]) next

end

/-- Whether a collector gives a value on a host from some record and some journal. -/
def MayGive (c : Collector α) (h : Host) (x : α) : Prop := ∃ i j, (c.runFrom h i j).1.1 = .ok x

/-- Whether a collector is a step that is local to an aspect, and leaves all that a record holds
about the others. -/
structure LocalTo (h : Host) (a : Aspect) (c : Collector α) : Prop where
  same : ∀ i j j', a.view h j = a.view h j' →
    (c.runFrom h i j).1 = (c.runFrom h i j').1 ∧
      a.view h (c.runFrom h i j).2 = a.view h (c.runFrom h i j').2
  kept : ∀ b, b ≠ a → ∀ i j, b.view h (c.runFrom h i j).2 = b.view h j
  owned : ∀ i j, (c.runFrom h i j).1.2.without a = i.without a

variable {h : Host} {a : Aspect} {fault : Fault → Prop}

/-- A collector that looks at its record alone is local if what it changes is about its aspect. -/
theorem localTo_of_run {c : Collector α} {r : SystemInfo → Except Fault α}
    {change : SystemInfo → SystemInfo} (hrun : ∀ i j, c.runFrom h i j = ((r i, change i), j))
    (hchange : ∀ i, (change i).without a = i.without a) : LocalTo h a c where
  same i j j' hj := by
    rw [hrun, hrun]
    exact ⟨rfl, hj⟩
  kept b _ i j := by rw [hrun]
  owned i j := by
    rw [hrun]
    exact hchange i

theorem localTo_write {change : SystemInfo → SystemInfo}
    (hchange : ∀ i, (change i).without a = i.without a) : LocalTo h a (write change) :=
  localTo_of_run (fun _ _ => rfl) hchange

theorem localTo_lift {step : HostM α} (hstep : HostM.LocalTo h a step) :
    LocalTo h a (liftM step) where
  same i j j' hj := by
    obtain ⟨hresult, hview⟩ := hstep.same j j' hj
    rw [runFrom_lift, runFrom_lift, hresult]
    exact ⟨rfl, hview⟩
  kept b hb i j := by
    rw [runFrom_lift]
    exact hstep.kept b hb j
  owned i j := by rw [runFrom_lift]

theorem LocalTo.bind {c : Collector α} {next : α → Collector β} (hc : LocalTo h a c)
    (hnext : ∀ x, c.MayGive h x → LocalTo h a (next x)) : LocalTo h a (c >>= next) where
  same i j j' hj := by
    obtain ⟨hresult, hview⟩ := hc.same i j j' hj
    have hgiven : ∀ x, (c.runFrom h i j).1.1 = .ok x → c.MayGive h x := fun _ hx => ⟨i, j, hx⟩
    rw [runFrom_bind, runFrom_bind]
    generalize c.runFrom h i j = run at hresult hview hgiven ⊢
    generalize c.runFrom h i j' = run' at hresult hview ⊢
    obtain ⟨⟨r, i₁⟩, k⟩ := run
    obtain ⟨⟨r', i₁'⟩, k'⟩ := run'
    cases hresult
    cases r with
    | error f => exact ⟨rfl, hview⟩
    | ok x => exact (hnext x (hgiven x rfl)).same i₁ k k' hview
  kept b hb i j := by
    have hfirst := hc.kept b hb i j
    rcases runFrom_bind_cases h i j c next with ⟨f, -, hrun⟩ | ⟨x, hx, hrun⟩
    · rw [hrun]
      exact hfirst
    · rw [hrun]
      exact ((hnext x ⟨i, j, hx⟩).kept b hb _ _).trans hfirst
  owned i j := by
    have hfirst := hc.owned i j
    rcases runFrom_bind_cases h i j c next with ⟨f, -, hrun⟩ | ⟨x, hx, hrun⟩
    · rw [hrun]
      exact hfirst
    · rw [hrun]
      exact ((hnext x ⟨i, j, hx⟩).owned _ _).trans hfirst

/-! ## Collectors that look and write -/

/-- Whether a collector writes only fields of an aspect, for the rest only looks, and fails by these
faults alone. -/
structure WritesOnly (h : Host) (a : Aspect) (fault : Fault → Prop) (c : Collector α) : Prop where
  fails : ∀ i j f, (c.runFrom h i j).1.1 = .error f → fault f
  outside : ∀ i j, (c.runFrom h i j).2.outside = j.outside
  owned : ∀ i j, (c.runFrom h i j).1.2.without a = i.without a
  isLocal : h.IsSteady → a ≠ .nat → LocalTo h a c

theorem writesOnly_of_run {c : Collector α} {r : SystemInfo → Except Fault α}
    {change : SystemInfo → SystemInfo} (hrun : ∀ i j, c.runFrom h i j = ((r i, change i), j))
    (hfault : ∀ i, FailsOnly (r i) fault) (hchange : ∀ i, (change i).without a = i.without a) :
    WritesOnly h a fault c where
  fails i j f herror := by
    rw [hrun] at herror
    exact hfault i f herror
  outside i j := by rw [hrun]
  owned i j := by
    rw [hrun]
    exact hchange i
  isLocal _ _ := localTo_of_run hrun hchange

theorem writesOnly_pure (x : α) : WritesOnly h a fault (pure x) :=
  writesOnly_of_run (fun _ _ => rfl) (fun _ => failsOnly_ok x) fun _ => rfl

theorem writesOnly_record : WritesOnly h a fault (getThe SystemInfo : Collector SystemInfo) :=
  writesOnly_of_run (fun _ _ => rfl) (fun i => failsOnly_ok i) fun _ => rfl

theorem writesOnly_write {change : SystemInfo → SystemInfo}
    (hchange : ∀ i, (change i).without a = i.without a) : WritesOnly h a fault (write change) :=
  writesOnly_of_run (fun _ _ => rfl) (fun _ => failsOnly_ok ()) hchange

theorem writesOnly_lift {step : HostM α} (hstep : HostM.LooksAt h fault step) :
    WritesOnly h a fault (liftM step) where
  fails _ j f herror := hstep.fails j f herror
  outside _ j := hstep.outside j
  owned _ _ := rfl
  isLocal hsteady ha := localTo_lift (hstep.isLocal hsteady a ha)

theorem WritesOnly.bind {c : Collector α} {next : α → Collector β} (hc : WritesOnly h a fault c)
    (hnext : ∀ x, c.MayGive h x → WritesOnly h a fault (next x)) :
    WritesOnly h a fault (c >>= next) where
  fails i j f herror := by
    rcases runFrom_bind_cases h i j c next with ⟨f', hfirst, hrun⟩ | ⟨x, hx, hrun⟩
    · rw [hrun] at herror
      cases herror
      exact hc.fails i j f hfirst
    · rw [hrun] at herror
      exact (hnext x ⟨i, j, hx⟩).fails _ _ f herror
  outside i j := by
    rcases runFrom_bind_cases h i j c next with ⟨f, -, hrun⟩ | ⟨x, hx, hrun⟩
    · rw [hrun]
      exact hc.outside i j
    · rw [hrun]
      exact ((hnext x ⟨i, j, hx⟩).outside _ _).trans (hc.outside i j)
  owned i j := by
    rcases runFrom_bind_cases h i j c next with ⟨f, -, hrun⟩ | ⟨x, hx, hrun⟩
    · rw [hrun]
      exact hc.owned i j
    · rw [hrun]
      exact ((hnext x ⟨i, j, hx⟩).owned _ _).trans (hc.owned i j)
  isLocal hsteady ha :=
    (hc.isLocal hsteady ha).bind fun x hx => (hnext x hx).isLocal hsteady ha

/-- A collector that goes on with the host. -/
theorem writesOnly_read_bind {next : Host → Collector β} (hnext : WritesOnly h a fault (next h)) :
    WritesOnly h a fault (read >>= next) := by
  have hread : WritesOnly h a fault (read : Collector Host) :=
    writesOnly_of_run (fun _ _ => rfl) (fun _ => failsOnly_ok h) fun _ => rfl
  refine hread.bind fun h' hh' => ?_
  obtain ⟨i, j, hgiven⟩ := hh'
  have heq : h = h' := Except.ok.inj hgiven
  exact heq ▸ hnext

/-- A collector that goes on with a value that may be a fault. -/
theorem writesOnly_ofExcept_bind {r : Except Fault α} {next : α → Collector β}
    (hr : FailsOnly r fault) (hnext : ∀ x, r = .ok x → WritesOnly h a fault (next x)) :
    WritesOnly h a fault (ofExcept r >>= next) := by
  have hrun : ∀ i j, (ofExcept r).runFrom h i j = ((r, i), j) := by
    cases r with
    | error f => exact fun _ _ => rfl
    | ok x => exact fun _ _ => rfl
  refine (writesOnly_of_run hrun (fun _ => hr) fun _ => rfl).bind fun x hx => ?_
  obtain ⟨i, j, hgiven⟩ := hx
  rw [hrun] at hgiven
  exact hnext x hgiven

/-- A collector that goes on with what it has looked at. -/
theorem writesOnly_lift_bind {step : HostM α} {next : α → Collector β}
    (hstep : HostM.LooksAt h fault step)
    (hnext : ∀ x, step.MayGive h x → WritesOnly h a fault (next x)) :
    WritesOnly h a fault (liftM step >>= next) := by
  refine (writesOnly_lift hstep).bind fun x hx => ?_
  obtain ⟨i, j, hgiven⟩ := hx
  exact hnext x ⟨j, hgiven⟩

theorem writesOnly_write_bind {change : SystemInfo → SystemInfo} {next : Unit → Collector β}
    (hchange : ∀ i, (change i).without a = i.without a) (hnext : WritesOnly h a fault (next ())) :
    WritesOnly h a fault (write change >>= next) :=
  (writesOnly_write hchange).bind fun _ _ => hnext

end Collector

namespace Platform

open Collector

variable {h : Host}

/-! ## The processor -/

theorem writesOnly_writeCores (p : Platform) (count : Option Int) :
    WritesOnly h .cpu (p.Raises h) (p.writeCores count) := by
  cases count with
  | none => exact writesOnly_pure _
  | some count =>
    rw [writeCores]
    split
    · exact writesOnly_pure _
    · refine writesOnly_ofExcept_bind (failsOnly_integerText (.tolerated rfl) _) fun n _ => ?_
      refine writesOnly_lift_bind (looksAt_cpuType p) fun kind _ => ?_
      exact writesOnly_write fun _ => rfl

theorem writesOnly_writeCpuBasics (p : Platform) :
    WritesOnly h .cpu (p.Raises h) p.writeCpuBasics := by
  refine writesOnly_read_bind ?_
  refine writesOnly_ofExcept_bind (fun f hf => .refused (.processors hf)) fun count _ => ?_
  exact (writesOnly_writeCores p count).bind fun _ _ => writesOnly_write fun _ => rfl

theorem writesOnly_writeLinuxCpu (p : Platform) :
    WritesOnly h .cpu (p.Raises h) p.writeLinuxCpu := by
  refine writesOnly_lift_bind looksAt_processorTable fun table _ => ?_
  refine writesOnly_lift_bind looksAt_processorListing fun listing _ => ?_
  refine writesOnly_lift_bind looksAt_boardName fun board _ => ?_
  refine writesOnly_write_bind (fun _ => rfl) ?_
  refine writesOnly_ofExcept_bind (failsOnly_cachesText (.tolerated rfl) _ _ _ _) fun caches _ => ?_
  exact writesOnly_write fun _ => rfl

theorem writesOnly_writeMacCpu (p : Platform) : WritesOnly h .cpu (p.Raises h) p.writeMacCpu := by
  refine writesOnly_lift_bind looksAt_macProfile fun profile _ => ?_
  extract_lets named size writeFeatures
  have hsize : ∀ cache, HostM.LooksAt h (p.Raises h) (size cache) :=
    fun cache => (looksAt_kernelVariable _).map _
  have hfeatures : ∀ model, WritesOnly h .cpu (p.Raises h) (writeFeatures model) := by
    intro model
    refine writesOnly_write_bind (fun _ => rfl) ?_
    refine writesOnly_lift_bind (hsize "l1d") fun l1d _ => ?_
    refine writesOnly_lift_bind (hsize "l1i") fun l1i _ => ?_
    refine writesOnly_lift_bind (hsize "l2") fun l2 _ => ?_
    refine writesOnly_lift_bind (hsize "l3") fun l3 _ => ?_
    refine writesOnly_ofExcept_bind (failsOnly_cachesText (.tolerated rfl) _ _ _ _)
      fun caches _ => ?_
    refine writesOnly_write_bind (fun _ => rfl) ?_
    refine writesOnly_lift_bind (Host.looksAt_outputOf _ _) fun listing _ => ?_
    exact writesOnly_write fun _ => rfl
  split
  · refine writesOnly_lift_bind (looksAt_kernelVariable _) fun brand _ => ?_
    refine writesOnly_record.bind fun info _ => ?_
    exact (writesOnly_pure _).bind fun model _ => hfeatures model
  · exact (writesOnly_pure _).bind fun model _ => hfeatures model

theorem writesOnly_writeBsdCpu (p : Platform) (sysctl : Option String) :
    WritesOnly h .cpu (p.Raises h) (p.writeBsdCpu sysctl) := by
  refine writesOnly_lift_bind (looksAt_kernelVariableBy sysctl _) fun model _ => ?_
  extract_lets writeFeatures writeCores
  have hfeatures : WritesOnly h .cpu (p.Raises h) (writeFeatures ()) := by
    cases sysctl with
    | none => exact writesOnly_pure _
    | some tool =>
      refine writesOnly_lift_bind (Host.looksAt_outputOf _ _) fun listing _ => ?_
      exact writesOnly_write fun _ => rfl
  have hcores : WritesOnly h .cpu (p.Raises h) (writeCores ()) := by
    refine writesOnly_record.bind fun info _ => ?_
    split
    · refine writesOnly_lift_bind (looksAt_kernelVariableBy sysctl _) fun count _ => ?_
      split
      · exact writesOnly_write_bind (fun _ => rfl) hfeatures
      · exact hfeatures
    · exact hfeatures
  split
  · refine writesOnly_lift_bind (looksAt_kernelVariableBy sysctl _) fun clock _ => ?_
    exact writesOnly_write_bind (fun _ => rfl) hcores
  · exact hcores

/-- The sizes of caches in management rows fail where a figure is out of range. -/
theorem failsOnly_windowsCaches_rows :
    FailsOnly (windowsCaches (h.rows "Win32_Processor") (h.rows "Win32_CacheMemory"))
      (windows.Raises h) := by
  have hrange : ∀ className name, (className, name) ∈ Host.cacheMembers →
      ∀ r ∈ h.rows className, ∀ v, r.lookup name = some v → ¬v.IsCacheSize →
        windows.Raises h .outOfRange := fun className name hmember r hr v hv hsize =>
    .range fun hin => hsize (hin.caches rfl _ hmember r hr v hv)
  refine failsOnly_windowsCaches (fun f hf => .tolerated hf) (hrange _ _ (by decide)) ?_
  intro r hr name hname
  have hmember : ("Win32_Processor", name) ∈ Host.cacheMembers := by
    revert name
    decide
  exact hrange _ _ hmember r hr

theorem writesOnly_writeWindowsCpu :
    WritesOnly h .cpu (windows.Raises h) windows.writeWindowsCpu := by
  refine writesOnly_lift_bind (looksAt_managementRows _) fun processors hprocessors => ?_
  obtain rfl := eq_rows_of_mayGive hprocessors
  have hnames : FailsOnly (Row.texts (h.rows "Win32_Processor") "Name") (windows.Raises h) :=
    Row.failsOnly_texts (.tolerated rfl) fun r hr => raises_wrongKind (by decide) hr
  refine writesOnly_ofExcept_bind hnames fun names _ => ?_
  extract_lets writeCaches
  have hcaches : WritesOnly h .cpu (windows.Raises h) (writeCaches ()) := by
    refine writesOnly_lift_bind (looksAt_managementRows _) fun caches hrows => ?_
    obtain rfl := eq_rows_of_mayGive hrows
    refine writesOnly_ofExcept_bind failsOnly_windowsCaches_rows fun caches _ => ?_
    refine writesOnly_write_bind (fun _ => rfl) ?_
    refine writesOnly_lift_bind (looksAt_registryFlag _ _) fun aes _ => ?_
    refine writesOnly_write_bind (fun _ => rfl) ?_
    refine writesOnly_lift_bind (looksAt_windowsVirtualization _ _) fun state _ => ?_
    exact writesOnly_write fun _ => rfl
  split
  · exact writesOnly_write_bind (fun _ => rfl) hcaches
  · exact hcaches

theorem writesOnly_collectCpu (p : Platform) : WritesOnly h .cpu (p.Raises h) p.collectCpu := by
  refine (writesOnly_writeCpuBasics p).bind fun _ _ => ?_
  cases p with
  | generic => exact writesOnly_pure _
  | linux => exact writesOnly_writeLinuxCpu linux
  | darwin => exact writesOnly_writeMacCpu darwin
  | bsd sysctl => exact writesOnly_writeBsdCpu (bsd sysctl) sysctl
  | windows => exact writesOnly_writeWindowsCpu

/-! ## Memory -/

/-- A size fails where a figure is out of range, if it is one of the figures. -/
theorem failsOnly_sizeText_of_inRange {p : Platform} {q : Quantity}
    (hin : p.FiguresInRange h → IsWritableSize q) : FailsOnly (sizeText q) (p.Raises h) := by
  intro f heq
  obtain ⟨rfl, hout⟩ := (sizeText_eq_error_iff q).1 heq
  exact .range fun hrange => hout (hin hrange)

theorem failsOnly_usedText_of_inRange {p : Platform} {m : Memory}
    (hin : p.FiguresInRange h → m.IsWritable) :
    FailsOnly (m.used >>= sizeText) (p.Raises h) := by
  intro f heq
  obtain rfl := m.failsOnly_usedText f heq
  refine .range fun hrange => ?_
  obtain ⟨text, htext⟩ := m.exists_usedText_iff.2 (hin hrange).used
  exact nomatch heq.symm.trans htext

theorem writesOnly_writeSwap {p : Platform} {swap : Usage}
    (hin : p.FiguresInRange h → swap.total.isZero = false → swap.IsWritable) :
    WritesOnly h .memory (p.Raises h) (writeSwap swap) := by
  rw [writeSwap]
  split
  · rename_i hsome
    have hzero : swap.total.isZero = false := by simpa using hsome
    have htotal := failsOnly_sizeText_of_inRange fun hrange => (hin hrange hzero).total
    have hused := failsOnly_sizeText_of_inRange fun hrange => (hin hrange hzero).used
    refine writesOnly_ofExcept_bind htotal fun total _ => ?_
    refine writesOnly_write_bind (fun _ => rfl) ?_
    refine writesOnly_ofExcept_bind hused fun used _ => ?_
    exact writesOnly_write fun _ => rfl
  · exact writesOnly_pure _

theorem writesOnly_writeMemoryBasics (p : Platform) :
    WritesOnly h .memory (p.Raises h) p.writeMemoryBasics := by
  refine writesOnly_read_bind ?_
  refine writesOnly_ofExcept_bind (fun f hf => .refused (.memory hf)) fun memory hmemory => ?_
  have hin : p.FiguresInRange h → memory.IsWritable := fun hrange => hrange.memory memory hmemory
  have htotal := failsOnly_sizeText_of_inRange fun hrange => (hin hrange).total
  refine writesOnly_ofExcept_bind htotal fun total _ => ?_
  refine writesOnly_write_bind (fun _ => rfl) ?_
  refine writesOnly_ofExcept_bind (failsOnly_usedText_of_inRange hin) fun used _ => ?_
  refine writesOnly_write_bind (fun _ => rfl) ?_
  refine writesOnly_ofExcept_bind (fun f hf => .refused (.swap hf)) fun swap hswap => ?_
  refine (writesOnly_writeSwap fun hrange => hrange.swap swap hswap).bind fun _ _ => ?_
  refine writesOnly_lift_bind (Host.looksAt_readText _) fun modules _ => ?_
  refine writesOnly_lift_bind (Host.looksAt_readText _) fun sharing _ => ?_
  exact writesOnly_write fun _ => rfl

theorem writesOnly_writeMacMemory (p : Platform) :
    WritesOnly h .memory (p.Raises h) writeMacMemory := by
  refine writesOnly_lift_bind looksAt_macProfile fun profile _ => ?_
  refine writesOnly_write_bind (fun _ => rfl) ?_
  refine writesOnly_lift_bind (Host.looksAt_outputOf _ _) fun listing _ => ?_
  split
  · exact writesOnly_write fun _ => rfl
  · exact writesOnly_pure _

theorem writesOnly_collectMemory (p : Platform) :
    WritesOnly h .memory (p.Raises h) p.collectMemory := by
  refine (writesOnly_writeMemoryBasics p).bind fun _ _ => ?_
  cases p with
  | darwin => exact writesOnly_writeMacMemory darwin
  | _ => exact writesOnly_pure _

/-! ## Disks and graphics devices -/

theorem writesOnly_writeUsage {p : Platform} {u : Usage}
    (hin : p.FiguresInRange h → u.IsWritable) :
    WritesOnly h .disk (p.Raises h) (writeUsage u) := by
  have htotal := failsOnly_sizeText_of_inRange fun hrange => (hin hrange).total
  have hused := failsOnly_sizeText_of_inRange fun hrange => (hin hrange).used
  refine writesOnly_ofExcept_bind htotal fun total _ => ?_
  refine writesOnly_write_bind (fun _ => rfl) ?_
  refine writesOnly_ofExcept_bind hused fun used _ => ?_
  exact writesOnly_write fun _ => rfl

theorem writesOnly_writeBootPath (p : Platform) :
    WritesOnly h .disk (p.Raises h) writeBootPath :=
  writesOnly_lift_bind (looksAt_bootPath p) fun _ _ => writesOnly_write fun _ => rfl

theorem writesOnly_collectDisk (p : Platform) : WritesOnly h .disk (p.Raises h) p.collectDisk := by
  refine writesOnly_read_bind (writesOnly_ofExcept_bind (fun f hf => .refused (.partitions hf))
    fun partitions hpartitions => ?_)
  refine writesOnly_lift_bind (looksAt_totalUsage p hpartitions) fun counted hcounted => ?_
  refine writesOnly_lift_bind (looksAt_usageOrRoot p counted) fun u hu => ?_
  have hshown : p.MayShowDisk h u :=
    ⟨partitions, counted, hpartitions, countedUsage_of_mayGive hcounted, hu⟩
  exact (writesOnly_writeUsage fun hrange => hrange.disk u hshown).bind fun _ _ =>
    writesOnly_writeBootPath p

theorem writesOnly_collectGpu (p : Platform) : WritesOnly h .gpu (p.Raises h) p.collectGpu := by
  refine writesOnly_lift_bind (looksAt_gpuModels p) fun models _ => ?_
  split
  · exact writesOnly_pure _
  · refine writesOnly_write_bind (fun _ => rfl) ?_
    refine writesOnly_lift_bind looksAt_gpuUtilization fun utilization _ => ?_
    split
    · split
      · exact writesOnly_write fun _ => rfl
      · exact writesOnly_pure _
    · exact writesOnly_pure _

/-! ## The host itself -/

section

variable {p : Platform} {start : Quantity} (hstart : p.bootTime.MayGive h (some start))

include hstart

/-- The time since the start fails where it is out of range. -/
theorem failsOnly_elapsed : FailsOnly (elapsed h.now start) (p.Raises h) := by
  intro f heq
  have hout : ¬IsElapsed h.now start := by
    rintro ⟨seconds, hok, -⟩
    rw [heq] at hok
    exact nomatch hok
  obtain rfl := start.failsOnly_toDouble f (HostM.map_eq_error_iff.1 heq)
  exact .range fun hin => hout (hin.start _ hstart)

theorem failsOnly_uptimeText {seconds : Binary64} (hseconds : elapsed h.now start = .ok seconds) :
    FailsOnly (uptimeText seconds) (p.Raises h) := by
  have hwhole : FailsOnly seconds.toInt (p.Raises h) := by
    cases seconds with
    | nan => exact failsOnly_error (.tolerated rfl)
    | infinite negative =>
      refine failsOnly_error (.range fun hin => ?_)
      obtain ⟨finite, hok, hfinite⟩ := hin.start _ hstart
      exact hfinite negative (Except.ok.inj (hok.symm.trans hseconds))
    | finite negative units hdouble => exact failsOnly_ok _
  exact hwhole.bind fun _ _ => failsOnly_ok _

end

theorem writesOnly_writeUptime (p : Platform) :
    WritesOnly h .host (p.Raises h) p.writeUptime := by
  refine writesOnly_lift_bind (looksAt_bootTime p) fun start hstart => ?_
  cases start with
  | none => exact writesOnly_pure _
  | some start =>
    refine writesOnly_read_bind ?_
    refine writesOnly_ofExcept_bind (failsOnly_elapsed hstart) fun seconds hseconds => ?_
    refine writesOnly_ofExcept_bind (failsOnly_uptimeText hstart hseconds) fun uptime _ => ?_
    exact writesOnly_write fun _ => rfl

theorem writesOnly_collectHost (p : Platform) : WritesOnly h .host (p.Raises h) p.collectHost := by
  refine writesOnly_lift_bind (looksAt_systemCaption p) fun platform _ => ?_
  refine writesOnly_write_bind (fun _ => rfl) ?_
  refine writesOnly_lift_bind (looksAt_kernelRelease p) fun kernel _ => ?_
  refine writesOnly_write_bind (fun _ => rfl) ?_
  refine writesOnly_read_bind ?_
  refine writesOnly_write_bind (fun _ => rfl) ?_
  refine (writesOnly_writeUptime p).bind fun _ _ => ?_
  refine writesOnly_lift_bind (looksAt_meanLoads p) fun loads _ => ?_
  refine writesOnly_write_bind (fun _ => rfl) ?_
  refine writesOnly_lift_bind (looksAt_machineKind p) fun vmType _ => ?_
  refine writesOnly_write_bind (fun _ => rfl) ?_
  refine writesOnly_lift_bind (looksAt_timeZone p) fun timezone _ => ?_
  exact writesOnly_write fun _ => rfl

theorem writesOnly_collectTcp (p : Platform) : WritesOnly h .tcp (p.Raises h) p.collectTcp := by
  refine writesOnly_lift_bind (looksAt_tcpAcceleration p) fun acceleration _ => ?_
  exact writesOnly_write fun _ => rfl

end Platform

end HostReport
