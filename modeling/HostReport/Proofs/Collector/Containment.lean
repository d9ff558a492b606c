import HostReport.Proofs.AddressTranslation.Servers
import HostReport.Proofs.Collector.Ownership

/-!
# What ends a run, and what ends a collector alone

Each collector fails only by faults of its platform, and all but a few of these end it alone.  What
is left are figures that are out of range, on Windows members of another kind than a text, and a
STUN timeout that no socket holds.  So a run on a host without these gives a record, whatever else
the host tells or refuses.
-/

namespace HostReport

open HostM

/-! ## Steps that are all made -/

/-- Where all of the steps fail, one of them does. -/
theorem exists_error_of_all {α : Type} {steps : List (HostM α)} {h : Host} {j : Journal} {f : Fault}
    (herror : ((all steps).runFrom h j).1 = .error f) :
    ∃ step ∈ steps, ∃ j', (step.runFrom h j').1 = .error f := by
  rw [runFrom_all] at herror
  have hcollected : FailsOnly (collected (outcomes h steps j).1)
      fun f => .error f ∈ (outcomes h steps j).1 :=
    failsOnly_mapM fun r hr f heq => heq ▸ hr
  exact exists_of_mem_outcomes h j (hcollected f herror)

/-- Where all of the steps give a value, each of them does from some journal. -/
theorem exists_ok_of_all {α : Type} {steps : List (HostM α)} {h : Host} {j : Journal} {as : List α}
    (hok : ((all steps).runFrom h j).1 = .ok as) {step : HostM α} (hstep : step ∈ steps) :
    ∃ j' a, (step.runFrom h j').1 = .ok a := by
  rw [runFrom_all, collected_eq_ok_iff] at hok
  obtain ⟨j', hmem⟩ := exists_mem_outcomes h j hstep
  rw [hok] at hmem
  obtain ⟨a, -, ha⟩ := List.mem_map.1 hmem
  exact ⟨j', a, ha.symm⟩

namespace Collector

/-- A part fails by the fault of its collector, if that is one that goes on. -/
theorem runFrom_part_eq_error_iff {c : Collector Unit} {h : Host} {j : Journal} {f : Fault} :
    (c.part.runFrom h j).1 = .error f ↔
      (c.runFrom h {} j).1.1 = .error f ∧ f.isOfCollector = false := by
  rcases Platform.runFrom_part_cases c h j with ⟨hending, hrun⟩ | ⟨f', hfirst, hf', hrun⟩
  · rw [hrun]
    refine iff_of_false (fun heq => nomatch heq) fun hboth => ?_
    exact nomatch hboth.2.symm.trans (hending f hboth.1)
  · rw [hrun, hfirst]
    simp only [Except.error.injEq]
    exact ⟨fun heq => ⟨heq, heq ▸ hf'⟩, fun hboth => hboth.1⟩

/-- Whether a collector ends with this fault, whatever its record holds and from every journal. -/
def StopsBy (h : Host) (f : Fault) {α : Type} (c : Collector α) : Prop :=
  ∀ i j, (c.runFrom h i j).1.1 = .error f

section

variable {α β : Type} {h : Host} {f : Fault}

theorem StopsBy.bind {c : Collector α} (hc : StopsBy h f c) (next : α → Collector β) :
    StopsBy h f (c >>= next) := by
  intro i j
  rcases runFrom_bind_cases h i j c next with ⟨f', hfirst, hrun⟩ | ⟨x, hfirst, -⟩
  · obtain rfl := Except.error.inj (hfirst.symm.trans (hc i j))
    rw [hrun]
  · exact nomatch hfirst.symm.trans (hc i j)

theorem stopsBy_read_bind {next : Host → Collector β} (hnext : StopsBy h f (next h)) :
    StopsBy h f (read >>= next) := hnext

theorem stopsBy_write_bind {change : SystemInfo → SystemInfo} {next : Unit → Collector β}
    (hnext : StopsBy h f (next ())) : StopsBy h f (write change >>= next) :=
  fun i j => hnext (change i) j

/-- A collector that goes on with a value stops at once if the value is a fault, and otherwise if
what follows does. -/
theorem stopsBy_ofExcept_bind {r : Except Fault α} {next : α → Collector β}
    (hfault : ∀ f', r = .error f' → f' = f) (hnext : ∀ x, r = .ok x → StopsBy h f (next x)) :
    StopsBy h f (ofExcept r >>= next) := by
  cases r with
  | error f' =>
    obtain rfl := hfault f' rfl
    exact StopsBy.bind (fun _ _ => rfl) next
  | ok x => exact hnext x rfl

/-- A collector that looks at something that is always found stops if it does after all that may be
found. -/
theorem stopsBy_lift_bind {step : HostM α} {next : α → Collector β}
    (hfound : LooksAt h (fun _ => False) step)
    (hnext : ∀ x, step.MayGive h x → StopsBy h f (next x)) : StopsBy h f (liftM step >>= next) := by
  intro i j
  rcases runFrom_bind_cases h i j (liftM step) next with ⟨f', hfirst, -⟩ | ⟨x, hfirst, hrun⟩
  · exact (hfound.fails j f' hfirst).elim
  · rw [hrun]
    exact hnext x ⟨j, hfirst⟩ _ _

/-- A collector that looks without leaving a trace stops as one that goes on with what is found. -/
theorem stopsBy_lift_bind_of_run {step : HostM α} {r : Except Fault α} {next : α → Collector β}
    (hrun : ∀ j, step.runFrom h j = (r, j)) (hfault : ∀ f', r = .error f' → f' = f)
    (hnext : ∀ x, r = .ok x → StopsBy h f (next x)) : StopsBy h f (liftM step >>= next) := by
  intro i j
  rw [runFrom_bind, runFrom_lift, hrun]
  cases r with
  | error f' => exact congrArg Except.error (hfault f' rfl)
  | ok x => exact hnext x rfl i j

end

end Collector

namespace Platform

open Collector

variable {h : Host} {j : Journal} {f : Fault} {isOnline : Bool}

/-! ## Which faults go on -/

/-- Finding the kind of translation fails only where the sockets refuse what is left of the
timeout. -/
theorem refusesLeftOf_of_collectNat {settings : Settings} {i : SystemInfo}
    (herror : ((collectNat settings).runFrom h i j).1.1 = .error f) :
    h.RefusesLeftOf settings.stunTimeout f := by
  have hnetwork : NatType.Network.ofHost.FailsBy h settings.stunTimeout
      fun f => f = .unavailable ∨ h.RefusesLeftOf settings.stunTimeout f :=
    NatType.Network.failsBy_ofHost (.inl rfl) fun _ => .inr
  rcases Collector.runFrom_bind_cases h i j
    (liftM (NatType.detect settings.stunTimeout settings.stunServers)) _
    with ⟨f', hfirst, hrun⟩ | ⟨kind, -, hrest⟩
  · rw [collectNat, hrun] at herror
    cases herror
    obtain ⟨heither, hforeign⟩ :=
      (NatType.failsBy_detect hnetwork settings.stunServers).fault_of_error j f hfirst
    refine heither.resolve_left fun hunavailable => hforeign ?_
    rw [hunavailable]
    rfl
  · rw [collectNat, hrest] at herror
    exact nomatch herror

/-- A run fails for want of workers, or by a fault of the platform or of a time limit that is none
of a collector. -/
theorem raises_of_collectAll {p : Platform} {settings : Settings}
    (herror : ((p.collectAll settings isOnline).runFrom h j).1 = .error f) :
    f = .malformed ∧ p.isConcurrent = true ∧ settings.maxWorkers ≤ 0 ∨
      (p.Raises h f ∨ isOnline = true ∧ h.RefusesLeftOf settings.stunTimeout f) ∧
        f.isOfCollector = false := by
  rw [runFrom_collectAll] at herror
  dsimp only at herror
  split at herror
  · rename_i hshort
    exact .inl ⟨(Except.error.inj herror).symm, hshort⟩
  · rw [map_eq_error_iff] at herror
    obtain ⟨step, hstep, j', hrun⟩ := exists_error_of_all herror
    obtain ⟨a, hcollected, rfl⟩ := List.mem_map.1 hstep
    obtain ⟨hfails, hgoesOn⟩ := runFrom_part_eq_error_iff.1 hrun
    refine .inr ⟨?_, hgoesOn⟩
    by_cases ha : a = .nat
    · rw [ha] at hfails hcollected
      exact .inr ⟨Aspect.isOnline_of_nat_mem hcollected, refusesLeftOf_of_collectNat hfails⟩
    · exact .inl ((writesOnly_collectorOf p settings ha).fails {} j' f hfails)

/-! ## Figures out of range -/

/-- Whether a figure of memory or of swap space is out of range where it is shown. -/
def HasMemoryOutOfRange (h : Host) : Prop :=
  ∃ m, h.memory = .ok m ∧
    (¬m.IsWritable ∨ ∃ s, h.swap = .ok s ∧ s.total.isZero = false ∧ ¬s.IsWritable)

/-- Whether a figure of disks is out of range where it is shown: no filesystem is closed to the
user, and whatever may be shown is out of range. -/
def HasDiskOutOfRange (p : Platform) (h : Host) : Prop :=
  ∃ partitions, h.partitions = .ok partitions ∧
    (∀ q ∈ countedPartitions partitions, h.Measures q.mountpoint) ∧
      ∀ u, p.MayShowDisk h u → ¬u.IsWritable

theorem stopsBy_writeSwap {swap : Usage} (hsome : swap.total.isZero = false)
    (hout : ¬swap.IsWritable) : StopsBy h .outOfRange (writeSwap swap) := by
  rw [writeSwap, if_pos (by simpa using hsome)]
  refine stopsBy_ofExcept_bind (failsOnly_sizeText _) fun total htotal => ?_
  refine stopsBy_write_bind ?_
  refine stopsBy_ofExcept_bind (failsOnly_sizeText _) fun used hused => ?_
  have htotal := (exists_sizeText_iff _).1 ⟨total, htotal⟩
  have hused := (exists_sizeText_iff _).1 ⟨used, hused⟩
  exact absurd ⟨htotal, hused⟩ hout

/-- A figure of memory that is out of range ends the collector of memory by a fault that goes on. -/
theorem stopsBy_collectMemory (hout : HasMemoryOutOfRange h) (p : Platform) :
    StopsBy h .outOfRange p.collectMemory := by
  obtain ⟨m, hmemory, hwhich⟩ := hout
  refine StopsBy.bind (stopsBy_read_bind ?_) _
  refine stopsBy_ofExcept_bind (fun f hf => nomatch hf.symm.trans hmemory) fun m' hm' => ?_
  obtain rfl : m' = m := Except.ok.inj (hm'.symm.trans hmemory)
  refine stopsBy_ofExcept_bind (failsOnly_sizeText _) fun total htotal => ?_
  refine stopsBy_write_bind ?_
  refine stopsBy_ofExcept_bind m'.failsOnly_usedText fun used hused => ?_
  refine stopsBy_write_bind ?_
  rcases hwhich with hmemory | ⟨s, hswap, hsome, hswapOut⟩
  · have htotal := (exists_sizeText_iff _).1 ⟨total, htotal⟩
    have hused := m'.exists_usedText_iff.1 ⟨used, hused⟩
    exact absurd ⟨htotal, hused⟩ hmemory
  · refine stopsBy_ofExcept_bind (fun f hf => nomatch hf.symm.trans hswap) fun s' hs' => ?_
    obtain rfl : s' = s := Except.ok.inj (hs'.symm.trans hswap)
    exact (stopsBy_writeSwap hsome hswapOut).bind _

/-- A figure of disks that is out of range ends the collector of disks by a fault that goes on. -/
theorem stopsBy_collectDisk {p : Platform} (hout : p.HasDiskOutOfRange h) :
    StopsBy h .outOfRange p.collectDisk := by
  obtain ⟨partitions, hpartitions, hopen, hwhich⟩ := hout
  refine stopsBy_read_bind (stopsBy_ofExcept_bind
    (fun f hf => nomatch hf.symm.trans hpartitions) fun partitions' hlisted => ?_)
  obtain rfl : partitions' = partitions := Except.ok.inj (hlisted.symm.trans hpartitions)
  refine stopsBy_lift_bind_of_run (fun j => h.runFrom_totalUsage j _) (fun f hf => ?_)
    fun counted hcounted => ?_
  · rcases h.failsOnly_measuredTotal _ f hf with ⟨q, hq, hrefused, hclosed⟩ | ⟨hf, -⟩
    · exact nomatch hclosed.symm.trans (hopen q hq f hrefused)
    · exact hf
  refine stopsBy_lift_bind (looksAt_usageOrRoot p counted) fun u hu => ?_
  have hout : ¬u.IsWritable :=
    hwhich u ⟨partitions', counted, hpartitions, ((h.measuredTotal_eq_ok_iff _ _).1 hcounted).2, hu⟩
  have hstops : StopsBy h .outOfRange (writeUsage u) := by
    refine stopsBy_ofExcept_bind (failsOnly_sizeText _) fun total htotal => ?_
    refine stopsBy_write_bind ?_
    refine stopsBy_ofExcept_bind (failsOnly_sizeText _) fun used hused => ?_
    have htotal := (exists_sizeText_iff _).1 ⟨total, htotal⟩
    have hused := (exists_sizeText_iff _).1 ⟨used, hused⟩
    exact absurd ⟨htotal, hused⟩ hout
  exact hstops.bind _

/-- A run in which a collector ends by a fault that goes on gives no record. -/
theorem collectAll_ne_ok_of_stopsBy {p : Platform} {settings : Settings} {a : Aspect}
    (ha : a ∈ Aspect.collected isOnline) (hf : f.isOfCollector = false)
    (hstops : StopsBy h f (p.collectorOf settings a)) (info : SystemInfo) :
    ((p.collectAll settings isOnline).runFrom h j).1 ≠ .ok info := by
  intro hok
  rw [runFrom_collectAll] at hok
  dsimp only at hok
  split at hok
  · exact nomatch hok
  · obtain ⟨parts, hparts, -⟩ := map_eq_ok_iff.1 hok
    obtain ⟨j', part, hpart⟩ := exists_ok_of_all hparts (List.mem_map_of_mem ha)
    have hfails := runFrom_part_eq_error_iff.2 ⟨hstops {} j', hf⟩
    exact nomatch hfails.symm.trans hpart

/-! ## What is contained -/

/-- A record that is given was not wanting for workers. -/
theorem workers_of_collectAll {p : Platform} {settings : Settings} {info : SystemInfo}
    (hok : ((p.collectAll settings isOnline).runFrom h j).1 = .ok info)
    (hconcurrent : p.isConcurrent) : 0 < settings.maxWorkers := by
  by_contra hnone
  rw [runFrom_collectAll, if_pos ⟨hconcurrent, Int.not_lt.1 hnone⟩] at hok
  exact nomatch hok

/-- Where what is refused ends a collector alone, a run fails for want of workers, by a figure out
of range, by a member of another kind than a text, or where a socket refuses what is left of a
timeout. -/
theorem faults_of_collectAll {p : Platform} {settings : Settings}
    (hrefusals : ∀ f, h.Refuses f → f.isOfCollector = true)
    (herror : ((p.collectAll settings isOnline).runFrom h j).1 = .error f) :
    f = .malformed ∧ p.isConcurrent = true ∧ settings.maxWorkers ≤ 0 ∨
      f = .outOfRange ∧ ¬p.FiguresInRange h ∨
      f = .wrongKind ∧ p = windows ∧ ¬h.MembersHave Host.textMembers Json.IsTextOrNothing ∨
      isOnline = true ∧ h.RefusesLeftOf settings.stunTimeout f ∧ f.isOfCollector = false := by
  rcases raises_of_collectAll herror with hworkers | ⟨hraises | ⟨honline, hrefused⟩, hgoesOn⟩
  · exact .inl hworkers
  · cases hraises with
    | tolerated hf => exact nomatch hf.symm.trans hgoesOn
    | refused hf => exact nomatch (hrefusals f hf).symm.trans hgoesOn
    | range hrange => exact .inr (.inl ⟨rfl, hrange⟩)
    | kind hp hkind => exact .inr (.inr (.inl ⟨rfl, hp, hkind⟩))
  · exact .inr (.inr (.inr ⟨honline, hrefused, hgoesOn⟩))

/-- Suppose that what the operating system refuses are faults that end a collector alone.  Then a
run on a host without a figure out of range, and on Windows without a member of another kind than a
text, gives a record, unless it needs workers and has none, or is online with a STUN timeout that
its sockets cannot hold.  No run fails for any other reason than these four.  And a figure of
memory, of swap space or of disks that is out of range never leaves a record. -/
theorem collectAll_contained (hrefusals : ∀ f, h.Refuses f → f.isOfCollector = true) (p : Platform)
    (settings : Settings) :
    (p.FiguresInRange h →
      (p = windows → h.MembersHave Host.textMembers Json.IsTextOrNothing) →
      (isOnline = true → h.WaitsBut settings.stunTimeout fun f => f.isOfCollector = true) →
        ((∃ info, ((p.collectAll settings isOnline).runFrom h j).1 = .ok info) ↔
          (p.isConcurrent → 0 < settings.maxWorkers))) ∧
      (∀ f, ((p.collectAll settings isOnline).runFrom h j).1 = .error f →
        f = .malformed ∧ p.isConcurrent = true ∧ settings.maxWorkers ≤ 0 ∨
          f = .outOfRange ∧ ¬p.FiguresInRange h ∨
          f = .wrongKind ∧ p = windows ∧
            ¬h.MembersHave Host.textMembers Json.IsTextOrNothing ∨
          isOnline = true ∧ h.RefusesLeftOf settings.stunTimeout f ∧ f.isOfCollector = false) ∧
      (HasMemoryOutOfRange h ∨ p.HasDiskOutOfRange h →
        ∀ info, ((p.collectAll settings isOnline).runFrom h j).1 ≠ .ok info) := by
  refine ⟨fun hin hkinds hwaits => ?_, fun f herror => faults_of_collectAll hrefusals herror,
    fun hout info => ?_⟩
  · constructor
    · rintro ⟨info, hok⟩ hconcurrent
      exact workers_of_collectAll hok hconcurrent
    · intro hworkers
      cases hrun : ((p.collectAll settings isOnline).runFrom h j).1 with
      | ok info => exact ⟨info, rfl⟩
      | error f =>
        rcases faults_of_collectAll hrefusals hrun with
          ⟨-, hconcurrent, hnone⟩ | ⟨-, hout⟩ | ⟨-, hp, hkind⟩ | ⟨honline, hrefused, hgoesOn⟩
        · exact absurd (hworkers hconcurrent) (Int.not_lt.2 hnone)
        · exact absurd hin hout
        · exact absurd (hkinds hp) hkind
        · exact nomatch (hwaits honline f hrefused).symm.trans hgoesOn
  · have hcollected : ∀ a ∈ [Aspect.memory, .disk], a ∈ Aspect.collected isOnline := by
      cases isOnline <;> decide
    rcases hout with hmemory | hdisk
    · exact collectAll_ne_ok_of_stopsBy (hcollected .memory (by decide)) rfl
        (stopsBy_collectMemory hmemory p) info
    · exact collectAll_ne_ok_of_stopsBy (hcollected .disk (by decide)) rfl
        (stopsBy_collectDisk hdisk) info

/-- A host with eight gigabytes of memory that has been up for an hour and lists no filesystem. -/
def smallHost : Host where
  memory := .ok ⟨8589934592, 4294967296⟩
  bootTime := .ok 1000
  now := 4600

/-- Nothing is out of range on this host, so a run gives a record. -/
theorem collectAll_contained_smallHost :
    (∀ f, smallHost.Refuses f → f.isOfCollector = true) ∧ linux.FiguresInRange smallHost ∧
      ∃ info, ((linux.collectAll {} false).runFrom smallHost {}).1 = .ok info := by
  have hrefusals : ∀ f, smallHost.Refuses f → f.isOfCollector = true := by
    rintro f (hf | hf | hf | hf | hf | hf | hf | ⟨mountpoint, hf⟩)
    case loads =>
      cases hf
      rfl
    all_goals exact nomatch hf
  have hcounted : smallHost.countedUsage [] = .ok ⟨0, 0⟩ := rfl
  have hin : linux.FiguresInRange smallHost := {
    memory := by
      rintro m hm
      cases hm
      exact ⟨by decide +kernel, 4294967296, by decide +kernel, by decide +kernel⟩
    swap := by
      rintro s hs hsome
      cases hs
      exact absurd hsome (by decide)
    counted := by
      rintro partitions hpartitions
      cases hpartitions
      exact ⟨_, hcounted⟩
    disk := by
      rintro u ⟨partitions, counted, hpartitions, hsum, j, hgiven⟩
      cases hpartitions
      obtain rfl := Except.ok.inj (hsum.symm.trans hcounted)
      cases hgiven
      decide +kernel
    start := by
      rintro start ⟨j, hgiven⟩
      cases hgiven
      exact ⟨3600, by decide +kernel, by decide +kernel⟩
    loads := fun loads hloads => nomatch hloads
    caches := nofun }
  have hcontained := (collectAll_contained (j := {}) hrefusals linux {}).1 hin
    (fun hp => nomatch hp) (fun honline : false = true => nomatch honline)
  exact ⟨hrefusals, hin, hcontained.2 (by decide)⟩

/-- The digits of `10 ^ 320`. -/
def hugeNumeral : List Char := '1' :: List.replicate 320 '0'

/-- A listing that gives the root filesystem so many kilobytes. -/
def hugeListing : List Char := "root ".toList ++ hugeNumeral ++ " 0 0 0% /".toList

/-- A host whose filesystems are listed like this. -/
def hugeRoot : Host where
  commands := [("df", [.exited 0 (String.ofList hugeListing) ""])]

/-- The words of the listing are those of its only line. -/
theorem rootOfListing_hugeListing :
    rootOfListing (String.ofList hugeListing) = (10 ^ 320 * 1024, 0) := by
  have hlines : Text.lines hugeListing = [hugeListing] := by decide +kernel
  have hwords : Text.words hugeListing =
      [['r', 'o', 'o', 't'], hugeNumeral, ['0'], ['0'], ['0', '%'], ['/']] := by
    decide +kernel
  have hnumeral : Numeral.readInt? hugeNumeral = some (10 ^ 320) := by decide +kernel
  have hzero : Numeral.readInt? ['0'] = some 0 := by decide +kernel
  have hroot : rootUsage? (String.ofList hugeListing) = some (10 ^ 320 * 1024, 0 * 1024) := by
    have hslash : String.ofList ['/'] = "/" := rfl
    rw [rootUsage?, wordsOf, String.toList_ofList, hwords]
    simp only [List.map_cons, List.map_nil, hslash, String.toList_ofList, hnumeral, hzero]
    rfl
  rw [rootOfListing, linesOf, String.toList_ofList, hlines, List.map_singleton,
    List.findSome?_singleton, hroot]
  rfl

theorem hasDiskOutOfRange_hugeRoot : linux.HasDiskOutOfRange hugeRoot := by
  refine ⟨[], rfl, nofun, ?_⟩
  rintro u ⟨partitions, counted, hpartitions, hsum, j, hgiven⟩
  cases hpartitions
  obtain rfl : counted = ⟨0, 0⟩ := (Except.ok.inj hsum).symm
  have hsteady : hugeRoot.IsSteady := by
    intro e he r hr r' hr'
    obtain rfl := List.mem_singleton.1 he
    rw [List.mem_singleton.1 hr, List.mem_singleton.1 hr']
  have houtput : hugeRoot.steadyOutput ["df"] true = String.ofList hugeListing := by
    have hfind : Host.find hugeRoot.commands (" ".intercalate ["df"]) =
        some [.exited 0 (String.ofList hugeListing) ""] := rfl
    rw [Host.steadyOutput, Host.resultOf, hfind]
    exact String.append_empty
  have hnothing : Usage.isNothing ⟨0, 0⟩ = true := rfl
  rw [usageOrRoot, if_pos hnothing, rootUsage, bind_assoc,
    HostM.runFrom_bind_of_ok _ j (Host.runFrom_outputOf hsteady ["df"] true j), houtput,
    rootOfListing_hugeListing] at hgiven
  rw [← Except.ok.inj hgiven]
  decide +kernel

/-- Not every run gives a record, even where nothing is refused but by faults of a collector. -/
theorem not_collectAll_total :
    ¬∀ (h : Host) (p : Platform) (settings : Settings) (isOnline : Bool) (j : Journal),
      (∀ f, h.Refuses f → f.isOfCollector = true) → 0 < settings.maxWorkers →
        ∃ info, ((p.collectAll settings isOnline).runFrom h j).1 = .ok info := by
  intro hall
  have hrefusals : ∀ f, hugeRoot.Refuses f → f.isOfCollector = true := by
    rintro f (hf | hf | hf | hf | hf | hf | hf | ⟨mountpoint, hf⟩)
    case memory | start | loads =>
      cases hf
      rfl
    all_goals exact nomatch hf
  obtain ⟨info, hok⟩ := hall hugeRoot linux {} false {} hrefusals (by decide)
  have hdisk : StopsBy hugeRoot .outOfRange (linux.collectorOf {} .disk) :=
    stopsBy_collectDisk hasDiskOutOfRange_hugeRoot
  exact collectAll_ne_ok_of_stopsBy (by decide) rfl hdisk info hok

end Platform

end HostReport
