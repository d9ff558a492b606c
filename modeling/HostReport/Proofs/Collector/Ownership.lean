import HostReport.Collector.All
import HostReport.Proofs.AddressTranslation.Conversation
import HostReport.Proofs.Collector.Writing
import HostReport.Proofs.GeoIp.Lookup

/-!
# Each collector owns its fields

A run makes all collectors and puts their records together.  Each of them is local to its own
aspect, so none of them notices the others: whatever their order, each leaves the record that it
leaves alone, and each field of the whole is that of the one record that knows it.  A collector that
stops early leaves what it has written, and nothing in the fields of the others.
-/

namespace HostReport

/-- The aspects that a run collects. -/
def Aspect.collected (isOnline : Bool) : List Aspect :=
  [.host, .cpu, .memory, .disk, .gpu, .tcp] ++ if isOnline then [.nat] else []

theorem Aspect.nodup_collected (isOnline : Bool) : (collected isOnline).Nodup := by
  cases isOnline <;> decide

theorem Aspect.ne_nat_of_mem_collected {a : Aspect} (ha : a ∈ collected false) : a ≠ .nat := by
  rintro rfl
  exact absurd ha (by decide)

theorem Aspect.isOnline_of_nat_mem {isOnline : Bool} (ha : .nat ∈ collected isOnline) :
    isOnline = true := by
  cases isOnline with
  | true => rfl
  | false => exact absurd rfl (ne_nat_of_mem_collected ha)

namespace Platform

/-- The collector of an aspect. -/
def collectorOf (p : Platform) (settings : Settings) : Aspect → Collector Unit
  | .host => p.collectHost
  | .cpu => p.collectCpu
  | .memory => p.collectMemory
  | .disk => p.collectDisk
  | .gpu => p.collectGpu
  | .tcp => p.collectTcp
  | .nat => collectNat settings

theorem collectors_eq (p : Platform) (settings : Settings) (isOnline : Bool) :
    p.collectors settings isOnline = (Aspect.collected isOnline).map (p.collectorOf settings) := by
  cases isOnline <;> rfl

/-- Every collector but the one that converses with servers writes only fields of its aspect, and
for the rest only looks. -/
theorem writesOnly_collectorOf {h : Host} (p : Platform) (settings : Settings) {a : Aspect}
    (ha : a ≠ .nat) : Collector.WritesOnly h a (p.Raises h) (p.collectorOf settings a) := by
  cases a with
  | host => exact writesOnly_collectHost p
  | cpu => exact writesOnly_collectCpu p
  | memory => exact writesOnly_collectMemory p
  | disk => exact writesOnly_collectDisk p
  | gpu => exact writesOnly_collectGpu p
  | tcp => exact writesOnly_collectTcp p
  | nat => exact absurd rfl ha

/-- Every collector of every platform is local to its aspect. -/
theorem localTo_collectorOf {h : Host} (hsteady : h.IsSteady) (p : Platform) (settings : Settings)
    (a : Aspect) : Collector.LocalTo h a (p.collectorOf settings a) := by
  by_cases ha : a = .nat
  · have hdetect : HostM.Converses h (NatType.detect settings.stunTimeout settings.stunServers) :=
      NatType.converses_ofServers settings.stunTimeout [] settings.stunServers
    rw [ha]
    refine (Collector.localTo_lift hdetect.isLocal).bind fun kind _ => ?_
    exact Collector.localTo_write fun _ => rfl
  · exact (writesOnly_collectorOf p settings ha).isLocal hsteady ha

/-! ## Collectors that run alone -/

/-- How the collector of an aspect ends that runs alone. -/
def endingOf (p : Platform) (settings : Settings) (h : Host) (j : Journal) (a : Aspect) :
    Except Fault Unit :=
  ((p.collectorOf settings a).runFrom h {} j).1.1

/-- What the collector of an aspect has written when it ends, if it runs alone. -/
def recordOf (p : Platform) (settings : Settings) (h : Host) (j : Journal) (a : Aspect) :
    SystemInfo :=
  ((p.collectorOf settings a).runFrom h {} j).1.2

/-- Whether a collector that ends like this has stopped by a fault that a collector may have, if it
has stopped. -/
def IsTolerated (ending : Except Fault Unit) : Prop := ∀ f, ending = .error f → f.isOfCollector

instance : DecidablePred IsTolerated
  | .ok _ => isTrue nofun
  | .error f => decidable_of_iff (f.isOfCollector = true)
    ⟨fun hf _ heq => Except.error.inj heq ▸ hf, fun hf => hf f rfl⟩

/-- A part is what its collector has written, unless the collector ends by a fault that goes on. -/
theorem runFrom_part_cases (c : Collector Unit) (h : Host) (j : Journal) :
    IsTolerated (c.runFrom h {} j).1.1 ∧
      c.part.runFrom h j = (.ok (c.runFrom h {} j).1.2, (c.runFrom h {} j).2) ∨
    ∃ f, (c.runFrom h {} j).1.1 = .error f ∧ f.isOfCollector = false ∧
      c.part.runFrom h j = (.error f, (c.runFrom h {} j).2) := by
  have hrun : (c.runOn {}).runFrom h j = (.ok (c.runFrom h {} j).1, (c.runFrom h {} j).2) := rfl
  rw [Collector.part, HostM.runFrom_bind_of_ok h j hrun]
  generalize c.runFrom h {} j = run
  rcases run with ⟨⟨f | _, info⟩, j'⟩
  · dsimp only
    cases hf : f.isOfCollector with
    | true => exact .inl ⟨fun f' heq => Except.error.inj heq ▸ hf, rfl⟩
    | false => exact .inr ⟨f, rfl, hf, rfl⟩
  · exact .inl ⟨nofun, rfl⟩

/-- A collector that ends with a tolerated fault or with none leaves a part of the whole. -/
theorem runFrom_part {c : Collector Unit} {h : Host} {j : Journal}
    (hending : IsTolerated (c.runFrom h {} j).1.1) :
    c.part.runFrom h j = (.ok (c.runFrom h {} j).1.2, (c.runFrom h {} j).2) := by
  rcases runFrom_part_cases c h j with ⟨-, hrun⟩ | ⟨f, hfirst, hf, -⟩
  · exact hrun
  · exact nomatch hf.symm.trans (hending f hfirst)

section

variable {h : Host} {j : Journal} {isOnline : Bool}

/-- Collectors that are made in any order leave what each of them leaves alone. -/
theorem runFrom_all_part (hsteady : h.IsSteady) (p : Platform) (settings : Settings)
    (hendings : ∀ a ∈ Aspect.collected isOnline, IsTolerated (p.endingOf settings h j a))
    (order : List Aspect) (horder : order.Perm (Aspect.collected isOnline)) :
    ((HostM.all (order.map fun a => (p.collectorOf settings a).part)).runFrom h j).1 =
      .ok (order.map (p.recordOf settings h j)) := by
  have hlocal := localTo_collectorOf hsteady p settings
  -- a journal suits a collector that has in it the same view as in the first one
  let suits : Aspect → Journal → Prop := fun a j' => a.view h j' = a.view h j
  have hpart : ∀ a ∈ order, ∀ j', suits a j' →
      (p.collectorOf settings a).part.runFrom h j' =
        (.ok (p.recordOf settings h j a), ((p.collectorOf settings a).runFrom h {} j').2) := by
    intro a ha j' hj'
    have hsame := ((hlocal a).same {} j' j hj').1
    have hending : IsTolerated ((p.collectorOf settings a).runFrom h {} j').1.1 := by
      rw [hsame]
      exact hendings a (horder.mem_iff.1 ha)
    rw [runFrom_part hending, hsame]
    rfl
  have hresult : ∀ a ∈ order, ∀ j', suits a j' →
      ((p.collectorOf settings a).part.runFrom h j').1 = .ok (p.recordOf settings h j a) :=
    fun a ha j' hj' => congrArg Prod.fst (hpart a ha j' hj')
  have hkept : order.Pairwise fun a b => ∀ j', suits a j' → suits b j' →
      suits b ((p.collectorOf settings a).part.runFrom h j').2 := by
    have hnodup : order.Nodup := horder.nodup_iff.2 (Aspect.nodup_collected isOnline)
    refine hnodup.imp_of_mem fun {a b} ha _ hab j' hj' hb => ?_
    rw [hpart a ha j' hj']
    exact ((hlocal a).kept b (Ne.symm hab) {} j').trans hb
  rw [HostM.runFrom_all, HostM.outcomes_of_undisturbed h j hresult hkept fun _ _ => rfl,
    HostM.collected_eq_ok_iff, List.map_map]
  rfl

/-! ## Records put together -/

/-- A run that is not short of workers makes all collectors and puts their parts together. -/
theorem runFrom_collectAll (p : Platform) (settings : Settings) :
    (p.collectAll settings isOnline).runFrom h j =
      let made := (HostM.all ((Aspect.collected isOnline).map fun a =>
        (p.collectorOf settings a).part)).runFrom h j
      if p.isConcurrent = true ∧ settings.maxWorkers ≤ 0 then (.error .malformed, j)
      else (made.1.map fun parts => parts.foldl SystemInfo.fill {}, made.2) := by
  have hcollectors : (p.collectors settings isOnline).map (·.part) =
      (Aspect.collected isOnline).map fun a => (p.collectorOf settings a).part := by
    rw [collectors_eq, List.map_map]
    rfl
  rw [collectAll, hcollectors, ← map_eq_pure_bind]
  dsimp only
  cases p.isConcurrent with
  | false =>
    rw [if_neg (by simp), if_neg (by simp)]
    exact HostM.runFrom_map h j _ _
  | true =>
    by_cases hworkers : 0 < settings.maxWorkers
    · rw [if_pos rfl, HostM.runFrom_bind_of_ok h j (runFrom_requireWorkers h j hworkers),
        if_neg (by simpa using hworkers)]
      exact HostM.runFrom_map h j _ _
    · have hnone := Int.not_lt.1 hworkers
      rw [if_pos rfl, requireWorkers, if_pos hnone, if_pos ⟨rfl, hnone⟩]
      rfl

/-- Where each collector leaves its part, a run gives the parts put together, unless it needs
workers and has none. -/
theorem runFrom_collectAll_eq_ok_iff {p : Platform} {settings : Settings} {parts : List SystemInfo}
    (hparts : ((HostM.all ((Aspect.collected isOnline).map fun a =>
      (p.collectorOf settings a).part)).runFrom h j).1 = .ok parts) (info : SystemInfo) :
    ((p.collectAll settings isOnline).runFrom h j).1 = .ok info ↔
      (p.isConcurrent → 0 < settings.maxWorkers) ∧ info = parts.foldl SystemInfo.fill {} := by
  rw [runFrom_collectAll]
  dsimp only
  split
  · rename_i hshort
    refine iff_of_false (fun hok => nomatch hok) fun hall => ?_
    exact absurd (hall.1 hshort.1) (Int.not_lt.2 hshort.2)
  · rename_i hworkers
    have henough : p.isConcurrent → 0 < settings.maxWorkers := fun hconcurrent =>
      Int.not_le.1 fun hnone => hworkers ⟨hconcurrent, hnone⟩
    rw [hparts, and_iff_right henough]
    exact ⟨fun heq => (Except.ok.inj heq).symm, fun heq => congrArg Except.ok heq.symm⟩

/-- On a host whose facts do not change, where every collector ends with a fault that collectors may
have or with none, a run that is not short of workers gives a record in which each field is the one
that the collector of its aspect has written before it returned or failed, and empty if that has
written none or is not made.  The record is the same in whatever order the collectors are made and
their records are put together, and no collector, however it ends, changes a field of another
aspect. -/
theorem collectAll_owned (hsteady : h.IsSteady) (p : Platform) (settings : Settings)
    (hendings : ∀ a ∈ Aspect.collected isOnline, IsTolerated (p.endingOf settings h j a)) :
    ∃ info,
      (∀ given, ((p.collectAll settings isOnline).runFrom h j).1 = .ok given ↔
        (p.isConcurrent → 0 < settings.maxWorkers) ∧ given = info) ∧
      (∀ f : SystemInfo.Field, f.get info =
        if f.owner ∈ Aspect.collected isOnline then f.get (p.recordOf settings h j f.owner)
        else "") ∧
      (∀ order : List Aspect, order.Perm (Aspect.collected isOnline) →
        ∃ parts, ((HostM.all (order.map fun a => (p.collectorOf settings a).part)).runFrom h j).1 =
            .ok parts ∧
          ∀ filled : List SystemInfo, filled.Perm parts →
            filled.foldl SystemInfo.fill {} = info) ∧
      ∀ (a : Aspect) (f : SystemInfo.Field), f.owner ≠ a → ∀ i j',
        f.get ((p.collectorOf settings a).runFrom h i j').1.2 = f.get i := by
  have hlocal := localTo_collectorOf hsteady p settings
  have hmade := runFrom_all_part hsteady p settings hendings
  have howned : ∀ a ∈ Aspect.collected isOnline,
      (p.recordOf settings h j a).without a = SystemInfo.without a {} :=
    fun a _ => (hlocal a).owned {} j
  have hfields := SystemInfo.get_foldl_fill_of_owned howned (List.Perm.refl _)
  refine ⟨_, runFrom_collectAll_eq_ok_iff (hmade _ (List.Perm.refl _)), hfields,
    fun order horder => ⟨_, hmade order horder, fun filled hfilled => ?_⟩,
    fun a f howner i j' => ?_⟩
  · have hperm := hfilled.trans (horder.map (p.recordOf settings h j))
    refine SystemInfo.ext_get fun f => ?_
    rw [SystemInfo.get_foldl_fill_of_owned howned hperm, hfields]
  · exact SystemInfo.get_eq_of_without_eq ((hlocal a).owned i j') howner

end

/-- A Mac that tells its profile, size and use of its memory, and nothing of its swap space. -/
def macWithProfile : Host where
  system := "Darwin"
  machine := "arm64"
  commands := [("system_profiler SPHardwareDataType",
    [.exited 0 "Model Name: Mac mini\nChip: Apple M2\nMemory: 8 GB\n" ""])]
  memory := .ok ⟨17179869184, 4294967296⟩
  swap := .error .unavailable

/-- The collector of memory stops behind size and use of memory, before it asks for the profile:
what it has written stays, the rest of its fields is empty, and the others are not affected. -/
theorem collectAll_owned_macWithProfile :
    macWithProfile.IsSteady ∧
      darwin.endingOf {} macWithProfile {} .memory = .error .unavailable ∧
        ∃ info, ((darwin.collectAll {} false).runFrom macWithProfile {}).1 = .ok info ∧
          info.cpuModel = "Apple M2" ∧ info.vmType = "Physical" ∧
            info.memoryTotal = "16.00 GB" ∧ info.memoryUsage = "12.00 GB" ∧
              info.virtioBalloon = "" := by
  have hsteady : macWithProfile.IsSteady := by decide
  have hworkers : darwin.isConcurrent → 0 < ({} : Settings).maxWorkers := by decide
  have hendings : ∀ a ∈ Aspect.collected false,
      IsTolerated (darwin.endingOf {} macWithProfile {} a) := by
    decide +kernel
  obtain ⟨info, hgiven, hfields, -⟩ := collectAll_owned hsteady darwin {} hendings
  refine ⟨hsteady, by decide +kernel, info, (hgiven info).2 ⟨hworkers, rfl⟩, ?_, ?_, ?_, ?_, ?_⟩
  · refine (hfields .cpuModel).trans ?_
    decide +kernel
  · refine (hfields .vmType).trans ?_
    decide +kernel
  · refine (hfields .memoryTotal).trans ?_
    decide +kernel
  · refine (hfields .memoryUsage).trans ?_
    decide +kernel
  · refine (hfields .virtioBalloon).trans ?_
    decide +kernel

end Platform

end HostReport
