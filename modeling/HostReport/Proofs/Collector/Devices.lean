import HostReport.Proofs.Collector.Writing
import HostReport.Proofs.Text.Search
import Mathlib.Algebra.BigOperators.Group.Finset.Basic

/-!
# Each device counts once

Disks are counted in the order in which partitions are listed, with the devices counted so far kept
aside.  What comes of it does not speak of them: `mem_firstOfDevices_iff` says of a partition that
it is counted exactly if it is the first one of its device, so size and use of all disks are sums
over the devices (`countedUsage_eq`).  These are added up in the order in which the devices are
listed first, which matters only where some figure is a double (`devicesUsage_of_whole`).  The rest
of the collector only writes these sums, or what the root filesystem has where both are zero.
-/

namespace HostReport

/-! ## Devices -/

namespace Platform

/-- Whether a partition has a filesystem of the usual kinds, named in either case, and is not one
that containers mount. -/
def IsEligible (q : Partition) : Prop :=
  (∃ t ∈ countedFilesystems, t.toList <:+: (lowercase q.fstype).toList) ∧
    ¬containerMounts.toList <:+: q.mountpoint.toList

theorem isCounted_eq_true_iff (q : Partition) : isCounted q = true ↔ IsEligible q := by
  rw [isCounted, Bool.and_eq_true, Bool.not_eq_true', List.any_eq_true, IsEligible, and_comm,
    ← Bool.not_eq_true]
  simp only [containsWord, Text.contains_eq_true_iff]

instance : DecidablePred IsEligible := fun q => decidable_of_iff _ (isCounted_eq_true_iff q)

theorem isCounted_eq_decide (q : Partition) : isCounted q = decide (IsEligible q) := by
  rw [Bool.eq_iff_iff, isCounted_eq_true_iff, decide_eq_true_iff]

/-- The devices with a partition that is eligible, in the order in which they have their first. -/
def eligibleDevices (partitions : List Partition) : List String :=
  ((partitions.filter fun q => IsEligible q).map Partition.device).eraseDups

/-- The first eligible partition of a device. -/
def firstEligible? (partitions : List Partition) (device : String) : Option Partition :=
  partitions.find? fun q => IsEligible q ∧ q.device = device

section

variable {devices : List String} {partitions : List Partition} {q : Partition}

/-- A partition is the first of its device, if the device is none of those before. -/
theorem mem_firstOfDevices_iff :
    q ∈ firstOfDevices devices partitions ↔
      q.device ∉ devices ∧ partitions.find? (·.device = q.device) = some q := by
  induction partitions generalizing devices with
  | nil => simp [firstOfDevices]
  | cons p ps ih =>
    rw [firstOfDevices, List.contains_eq_mem]
    by_cases hp : p.device = q.device
    · rw [List.find?_cons_of_pos (by simpa using hp)]
      by_cases hseen : p.device ∈ devices
      · simp [hseen, ih, ← hp]
      · simp [hseen, ih, ← hp, eq_comm]
    · rw [List.find?_cons_of_neg (by simpa using hp)]
      have hqp : q ≠ p := fun heq => hp (congrArg Partition.device heq).symm
      by_cases hseen : p.device ∈ devices
      · simp [hseen, ih]
      · simp [hseen, ih, hqp, Ne.symm hp]

theorem map_device_firstOfDevices :
    (firstOfDevices devices partitions).map Partition.device =
      ((partitions.map Partition.device).filter (· ∉ devices)).eraseDups := by
  induction partitions generalizing devices with
  | nil => rfl
  | cons p ps ih =>
    rw [firstOfDevices, List.contains_eq_mem, List.map_cons]
    by_cases hseen : p.device ∈ devices
    · rw [if_pos (by simpa using hseen), List.filter_cons_of_neg (by simpa using hseen), ih]
    · rw [if_neg (by simpa using hseen), List.filter_cons_of_pos (by simpa using hseen),
        List.eraseDups_cons, List.filter_filter, List.map_cons, ih]
      congr 3
      ext device
      rw [Bool.eq_iff_iff]
      simp

theorem nodup_map_device_firstOfDevices :
    ((firstOfDevices devices partitions).map Partition.device).Nodup := by
  induction partitions generalizing devices with
  | nil => exact List.nodup_nil
  | cons p ps ih =>
    rw [firstOfDevices]
    split
    · exact ih
    · rw [List.map_cons, List.nodup_cons]
      refine ⟨fun hmem => ?_, ih⟩
      obtain ⟨q, hq, hdevice⟩ := List.mem_map.1 hmem
      exact (mem_firstOfDevices_iff.1 hq).1 (hdevice ▸ List.mem_cons_self)

end

theorem device_of_firstEligible? {partitions : List Partition} {device : String} {q : Partition}
    (hq : firstEligible? partitions device = some q) : q.device = device := by
  have hfound := List.find?_some hq
  rw [decide_eq_true_iff] at hfound
  exact hfound.2

/-- A partition counts exactly if it is the first eligible one of its device. -/
theorem mem_countedPartitions_iff {partitions : List Partition} {q : Partition} :
    q ∈ countedPartitions partitions ↔ firstEligible? partitions q.device = some q := by
  rw [countedPartitions, mem_firstOfDevices_iff, List.find?_filter, firstEligible?]
  simp [isCounted_eq_decide]

/-- The devices of the partitions that count are those with an eligible partition. -/
theorem map_device_countedPartitions (partitions : List Partition) :
    (countedPartitions partitions).map Partition.device = eligibleDevices partitions := by
  have hcounted : isCounted = fun q => decide (IsEligible q) := funext isCounted_eq_decide
  rw [countedPartitions, map_device_firstOfDevices, eligibleDevices, hcounted]
  simp

theorem nodup_eligibleDevices (partitions : List Partition) :
    (eligibleDevices partitions).Nodup := by
  rw [← map_device_countedPartitions]
  exact nodup_map_device_firstOfDevices

/-- What is told of the partitions that count is told of the devices. -/
theorem map_countedPartitions {α : Type} {partitions : List Partition} {f : Partition → α}
    {g : String → α}
    (hfg : ∀ device q, firstEligible? partitions device = some q → g device = f q) :
    (countedPartitions partitions).map f = (eligibleDevices partitions).map g := by
  rw [← map_device_countedPartitions, List.map_map]
  refine List.map_congr_left fun q hq => ?_
  exact (hfg q.device q (mem_countedPartitions_iff.1 hq)).symm

/-- Whether a partition that is listed behind some others leaves the disks as they are: it is not
eligible, or its device counts already. -/
def IsIdle (before : List Partition) (q : Partition) : Prop :=
  ¬IsEligible q ∨ q.device ∈ eligibleDevices before

instance (before : List Partition) : DecidablePred (IsIdle before) :=
  fun q => inferInstanceAs (Decidable (¬IsEligible q ∨ q.device ∈ eligibleDevices before))

theorem firstOfDevices_insert {q : Partition} {before : List Partition} (behind : List Partition)
    {devices : List String} (hq : q.device ∈ devices ∨ ∃ p ∈ before, p.device = q.device) :
    firstOfDevices devices (before ++ q :: behind) = firstOfDevices devices (before ++ behind) := by
  induction before generalizing devices with
  | nil =>
    have hseen : q.device ∈ devices := hq.resolve_right (by simp)
    simp [firstOfDevices, hseen]
  | cons p before ih =>
    rw [List.cons_append, List.cons_append, firstOfDevices, firstOfDevices]
    rw [List.exists_mem_cons_iff] at hq
    by_cases hseen : p.device ∈ devices
    · have hrest : q.device ∈ devices ∨ ∃ p ∈ before, p.device = q.device := by
        rcases hq with hq | hq | hq
        · exact .inl hq
        · exact .inl (hq ▸ hseen)
        · exact .inr hq
      simp [hseen, ih hrest]
    · have hrest : q.device ∈ p.device :: devices ∨ ∃ p ∈ before, p.device = q.device := by
        rw [List.mem_cons]
        rcases hq with hq | hq | hq
        · exact .inl (.inr hq)
        · exact .inl (.inl hq.symm)
        · exact .inr hq
      simp [hseen, ih hrest]

/-- A partition that is idle where it stands may be left out. -/
theorem countedPartitions_insert {before : List Partition} {q : Partition} (hq : IsIdle before q)
    (behind : List Partition) :
    countedPartitions (before ++ q :: behind) = countedPartitions (before ++ behind) := by
  rw [countedPartitions, countedPartitions, List.filter_append, List.filter_append]
  by_cases heligible : IsEligible q
  · have hdevice := hq.resolve_left (not_not.2 heligible)
    rw [List.filter_cons_of_pos ((isCounted_eq_true_iff q).2 heligible)]
    refine firstOfDevices_insert _ (.inr ?_)
    simpa [eligibleDevices, isCounted_eq_decide] using hdevice
  · rw [List.filter_cons_of_neg (mt (isCounted_eq_true_iff q).1 heligible)]

end Platform

/-! ## Sums over devices -/

/-- Sizes and uses that are whole numbers are added up as such. -/
theorem Usage.sum_map_whole {ι : Type} (is : List ι) (total used : ι → Int) :
    Usage.sum (is.map fun i => ⟨total i, used i⟩) =
      .ok ⟨(is.map total).sum, (is.map used).sum⟩ := by
  have hfrom (m n : Int) : (is.map fun i => (⟨total i, used i⟩ : Usage)).foldlM Usage.add
      ⟨.whole m, .whole n⟩ =
        .ok ⟨.whole (m + (is.map total).sum), .whole (n + (is.map used).sum)⟩ := by
    induction is generalizing m n with
    | nil => simp [Pure.pure, Except.pure]
    | cons i is ih =>
      simp only [List.map_cons, List.foldlM_cons, List.sum_cons, ← add_assoc]
      exact ih (m + total i) (n + used i)
  have hzero := hfrom 0 0
  rw [zero_add, zero_add] at hzero
  exact hzero

open Platform

namespace Host

/-- Size and use of a device, by its first eligible partition. -/
def deviceUsage (h : Host) (partitions : List Partition) (device : String) : Usage :=
  (firstEligible? partitions device).elim ⟨0, 0⟩ fun q => h.usageOf q.mountpoint

/-- Size and use of all devices. -/
def devicesUsage (h : Host) (partitions : List Partition) : Except Fault Usage :=
  Usage.sum ((eligibleDevices partitions).map (h.deviceUsage partitions))

/-- Size and use of all disks are the sums over the devices. -/
theorem countedUsage_eq (h : Host) (partitions : List Partition) :
    h.countedUsage partitions = h.devicesUsage partitions := by
  refine congrArg Usage.sum (map_countedPartitions fun device q hq => ?_)
  rw [deviceUsage, hq]
  rfl

/-- The filesystems that count are measured exactly if none of them is closed and the sums over the
devices are not out of range. -/
theorem measuredTotal_counted_eq_ok_iff (h : Host) (partitions : List Partition) (counted : Usage) :
    h.measuredTotal (countedPartitions partitions) = .ok counted ↔
      (∀ device q, firstEligible? partitions device = some q → h.Measures q.mountpoint) ∧
        h.devicesUsage partitions = .ok counted := by
  have hmeasures : (∀ q ∈ countedPartitions partitions, h.Measures q.mountpoint) ↔
      ∀ device q, firstEligible? partitions device = some q → h.Measures q.mountpoint := by
    simp only [mem_countedPartitions_iff]
    refine ⟨fun hall device q hq => hall q ?_, fun hall q hq => hall q.device q hq⟩
    rw [device_of_firstEligible? hq]
    exact hq
  rw [measuredTotal_eq_ok_iff, hmeasures, ← countedUsage_eq]
  rfl

/-- The order of the devices does not matter where all their figures are whole numbers. -/
theorem devicesUsage_of_whole {h : Host} {partitions : List Partition} {total used : String → Int}
    (hwhole : ∀ device ∈ eligibleDevices partitions,
      h.deviceUsage partitions device = ⟨total device, used device⟩) :
    h.devicesUsage partitions =
      .ok ⟨.whole (∑ device ∈ (eligibleDevices partitions).toFinset, total device),
        .whole (∑ device ∈ (eligibleDevices partitions).toFinset, used device)⟩ := by
  have hnodup := nodup_eligibleDevices partitions
  rw [devicesUsage, List.map_congr_left hwhole, Usage.sum_map_whole, ← List.sum_toFinset _ hnodup,
    ← List.sum_toFinset _ hnodup]

/-- Size and use of the root filesystem, as a platform looks for it next. -/
def nextRootUsage (h : Host) (j : Journal) : Platform → Usage
  | linux =>
    let root := rootOfListing (h.nextOutput j ["df"] true)
    ⟨root.1, root.2⟩
  | _ => ⟨0, 0⟩

/-- What is counted, or else what the root filesystem has next. -/
def nextUsage (h : Host) (j : Journal) (p : Platform) (counted : Usage) : Usage :=
  if counted.isNothing then h.nextRootUsage j p else counted

end Host

namespace Platform

theorem runFrom_usageOrRoot (p : Platform) (h : Host) (j : Journal) (counted : Usage) :
    ((p.usageOrRoot counted).runFrom h j).1 = .ok (h.nextUsage j p counted) := by
  rw [usageOrRoot, Host.nextUsage]
  split
  · cases p with
    | linux =>
      rw [rootUsage, bind_assoc,
        HostM.runFrom_bind_of_ok h j (Host.runFrom_outputOf_next _ _ j)]
      rfl
    | _ => rfl
  · rfl

/-- What is shown as size and use of the disks. -/
def shownUsage (p : Platform) (h : Host) (partitions : List Partition) (j : Journal) :
    Except Fault Usage :=
  (h.devicesUsage partitions).map (h.nextUsage j p)

/-- The search for the place from which the system was started leaves no trace. -/
theorem exists_runFrom_firstSized (h : Host) (partitions : List Partition) :
    ∃ r, ∀ j, (firstSized partitions).runFrom h j = (r, j) := by
  induction partitions with
  | nil => exact ⟨_, fun _ => rfl⟩
  | cons q partitions ih =>
    obtain ⟨r, hr⟩ := ih
    rw [firstSized]
    split
    · exact ⟨r, hr⟩
    · cases hmeasured : h.measured q.mountpoint with
      | error f =>
        refine ⟨.error f, fun j => ?_⟩
        rw [HostM.runFrom_bind, Host.runFrom_usageOrNothing, hmeasured]
      | ok u =>
        have hnext : ∀ j, (usageOrNothing q.mountpoint).runFrom h j = (.ok u, j) := by
          intro j
          rw [Host.runFrom_usageOrNothing, hmeasured]
        by_cases htotal : u.total.isPositive = true
        · refine ⟨.ok q.mountpoint, fun j => ?_⟩
          rw [HostM.runFrom_bind_of_ok h j (hnext j), if_pos htotal, HostM.runFrom_pure]
        · refine ⟨r, fun j => ?_⟩
          rw [HostM.runFrom_bind_of_ok h j (hnext j), if_neg htotal, hr]

/-! ## The collector -/

section

variable (p : Platform) {h : Host} {partitions : List Partition}
  (hpartitions : h.partitions = .ok partitions) (i : SystemInfo) (j : Journal)

include hpartitions

/-- Where the filesystems that count are measured, what they have or the root filesystem has is
written, and then the place from which the system was started; and where they are not, nothing is.
-/
theorem exists_runFrom_collectDisk :
    match h.measuredTotal (countedPartitions partitions) with
    | .ok counted => ∃ j', p.collectDisk.runFrom h i j =
        (writeUsage (h.nextUsage j p counted) >>= fun _ => writeBootPath).runFrom h i j'
    | .error f => p.collectDisk.runFrom h i j = ((.error f, i), j) := by
  rw [collectDisk, Collector.runFrom_read_bind, hpartitions, Collector.runFrom_bind_of_ok h i j
    (Collector.runFrom_ofExcept h i j (.ok partitions)), Collector.runFrom_bind,
    Collector.runFrom_lift, h.runFrom_totalUsage]
  cases h.measuredTotal (countedPartitions partitions) with
  | error f => rfl
  | ok counted =>
    dsimp only
    rw [Collector.runFrom_lift_bind_of_ok h i j (Prod.ext (runFrom_usageOrRoot p h j counted) rfl)]
    exact ⟨_, rfl⟩

end

/-- Writing goes as far as the figures can be written. -/
theorem runFrom_writeUsage_bind (u : Usage) (next : Unit → Collector Unit) (h : Host)
    (i : SystemInfo) (j : Journal) :
    (writeUsage u >>= next).runFrom h i j =
      match sizeText u.total, sizeText u.used with
      | .ok total, .ok used =>
        (next ()).runFrom h { i with diskTotal := total, diskUsage := used } j
      | .ok total, .error f => ((.error f, { i with diskTotal := total }), j)
      | .error f, _ => ((.error f, i), j) := by
  rw [writeUsage, bind_assoc, Collector.runFrom_bind, Collector.runFrom_ofExcept]
  cases sizeText u.total with
  | error f => rfl
  | ok total =>
    dsimp only
    rw [bind_assoc, Collector.runFrom_write_bind, bind_assoc, Collector.runFrom_bind,
      Collector.runFrom_ofExcept]
    cases sizeText u.used <;> rfl

theorem exists_runFrom_writeBootPath (h : Host) :
    ∃ r : Except Fault String, (∀ path, r = .ok path ↔ bootPath.MayGive h path) ∧ ∀ i j,
      writeBootPath.runFrom h i j =
        match r with
        | .ok path => ((.ok (), { i with bootPath := path }), j)
        | .error f => ((.error f, i), j) := by
  have hfound : ∃ r, ∀ j, bootPath.runFrom h j = (r, j) := by
    rw [bootPath]
    cases hall : h.allPartitions with
    | error f =>
      refine ⟨.error f, fun j => ?_⟩
      rw [HostM.runFrom_bind_of_ok h j (HostM.runFrom_read h j), hall]
      rfl
    | ok partitions =>
      obtain ⟨r, hr⟩ := exists_runFrom_firstSized h partitions
      refine ⟨r, fun j => ?_⟩
      rw [HostM.runFrom_bind_of_ok h j (HostM.runFrom_read h j), hall,
        HostM.runFrom_bind_of_ok h j (HostM.runFrom_ofExcept h j (.ok partitions)), hr]
  obtain ⟨r, hpath⟩ := hfound
  refine ⟨r, fun path => ⟨fun heq => ⟨{}, by rw [hpath, heq]⟩, fun ⟨j, hj⟩ => ?_⟩, fun i j => ?_⟩
  · rw [hpath] at hj
    exact hj
  · rw [writeBootPath, Collector.runFrom_bind, Collector.runFrom_lift, hpath]
    cases r <;> rfl

/-- What is shown of disks is written in any case, if its figures can be written; and all is, if
further the place from which the system was started is found. -/
theorem figures_of_writeUsage (u : Usage) (h : Host) (i : SystemInfo) (j : Journal) :
    let run := (writeUsage u >>= fun _ => writeBootPath).runFrom h i j
    (run.1.1 = .ok () ↔ u.IsWritable ∧ ∃ path, bootPath.MayGive h path) ∧
      (run.1.1 = .ok () → sizeText u.total = .ok run.1.2.diskTotal ∧
        sizeText u.used = .ok run.1.2.diskUsage) := by
  have hwritable : u.IsWritable ↔
      (∃ total, sizeText u.total = .ok total) ∧ ∃ used, sizeText u.used = .ok used := by
    rw [exists_sizeText_iff, exists_sizeText_iff]
    exact ⟨fun hall => ⟨hall.total, hall.used⟩, fun hboth => ⟨hboth.1, hboth.2⟩⟩
  obtain ⟨r, hr, hpath⟩ := exists_runFrom_writeBootPath h
  simp only [hwritable, ← hr, runFrom_writeUsage_bind, hpath]
  cases sizeText u.total with
  | error f => simp
  | ok total =>
    cases sizeText u.used with
    | error f => simp
    | ok used => cases r <;> simp

/-- Neither a change of the journal nor one of where the system was started from makes a difference
to what is shown of disks. -/
theorem figures_of_writeUsage_eq (u : Usage) (h h' : Host) (i : SystemInfo) (j j' : Journal) :
    let run := (writeUsage u >>= fun _ => writeBootPath).runFrom h i j
    let run' := (writeUsage u >>= fun _ => writeBootPath).runFrom h' i j'
    run.1.2.diskTotal = run'.1.2.diskTotal ∧ run.1.2.diskUsage = run'.1.2.diskUsage := by
  obtain ⟨r, -, hpath⟩ := exists_runFrom_writeBootPath h
  obtain ⟨r', -, hpath'⟩ := exists_runFrom_writeBootPath h'
  simp only [runFrom_writeUsage_bind, hpath, hpath']
  cases sizeText u.total with
  | error f => exact ⟨rfl, rfl⟩
  | ok total =>
    cases sizeText u.used with
    | error f => exact ⟨rfl, rfl⟩
    | ok used => cases r <;> cases r' <;> exact ⟨rfl, rfl⟩

/-- What is shown of disks depends on nothing but the partitions that count, what is told of
filesystems and what commands print. -/
theorem figures_of_collectDisk_eq (p : Platform) (h h' : Host)
    {partitions partitions' : List Partition} (hpartitions : h.partitions = .ok partitions)
    (hpartitions' : h'.partitions = .ok partitions')
    (hcounted : countedPartitions partitions' = countedPartitions partitions)
    (husage : h'.usage = h.usage) (hcommands : h'.commands = h.commands) (i : SystemInfo)
    (j : Journal) :
    let run := p.collectDisk.runFrom h i j
    let run' := p.collectDisk.runFrom h' i j
    run'.1.2.diskTotal = run.1.2.diskTotal ∧ run'.1.2.diskUsage = run.1.2.diskUsage := by
  have hmeasured : h'.measured = h.measured := funext fun m => by
    rw [Host.measured, Host.measured, Host.usageOf, Host.usageOf, husage]
  have htotal : h'.measuredTotal (countedPartitions partitions') =
      h.measuredTotal (countedPartitions partitions) := by
    rw [Host.measuredTotal, Host.measuredTotal, hcounted, hmeasured]
  have hnext : h'.nextUsage j p = h.nextUsage j p := by
    have houtput : h'.nextOutput j ["df"] true = h.nextOutput j ["df"] true := by
      rw [Host.nextOutput, Host.nextOutput, Host.nextResult, Host.nextResult, hcommands]
    funext counted
    rw [Host.nextUsage, Host.nextUsage]
    cases p with
    | linux => rw [Host.nextRootUsage, Host.nextRootUsage, houtput]
    | _ => rfl
  have hrun := exists_runFrom_collectDisk p hpartitions i j
  have hrun' := exists_runFrom_collectDisk p hpartitions' i j
  rw [htotal] at hrun'
  cases hcase : h.measuredTotal (countedPartitions partitions) with
  | error f =>
    rw [hcase] at hrun hrun'
    rw [show p.collectDisk.runFrom h i j = _ from hrun,
      show p.collectDisk.runFrom h' i j = _ from hrun']
    exact ⟨rfl, rfl⟩
  | ok counted =>
    rw [hcase] at hrun hrun'
    obtain ⟨k, hrun⟩ := hrun
    obtain ⟨k', hrun'⟩ := hrun'
    rw [hrun, hrun', hnext]
    exact figures_of_writeUsage_eq _ h' h i k' k

/-- A collector of disks that ends without a fault has measured all filesystems that count, and has
written what is shown. -/
theorem ends_of_collectDisk (p : Platform) {h : Host} {partitions : List Partition}
    (hpartitions : h.partitions = .ok partitions) (i : SystemInfo) (j : Journal) :
    let run := p.collectDisk.runFrom h i j
    (run.1.1 = .ok () ↔
        (∀ device q, firstEligible? partitions device = some q → h.Measures q.mountpoint) ∧
          (∃ shown, p.shownUsage h partitions j = .ok shown ∧ shown.IsWritable) ∧
            ∃ path, bootPath.MayGive h path) ∧
      (run.1.1 = .ok () → ∃ shown, p.shownUsage h partitions j = .ok shown ∧
        sizeText shown.total = .ok run.1.2.diskTotal ∧
          sizeText shown.used = .ok run.1.2.diskUsage) := by
  intro run
  have htotal := h.measuredTotal_counted_eq_ok_iff partitions
  have hrun := exists_runFrom_collectDisk p hpartitions i j
  cases hcase : h.measuredTotal (countedPartitions partitions) with
  | error f =>
    rw [hcase] at hrun
    rw [show run = _ from hrun]
    refine ⟨iff_of_false nofun ?_, nofun⟩
    rintro ⟨hopen, ⟨shown, hok, -⟩, -⟩
    obtain ⟨counted, hcounted, -⟩ := HostM.map_eq_ok_iff.1 hok
    exact nomatch hcase.symm.trans ((htotal counted).2 ⟨hopen, hcounted⟩)
  | ok counted =>
    rw [hcase] at hrun
    obtain ⟨k, hrun⟩ := hrun
    obtain ⟨hopen, hcounted⟩ := (htotal counted).1 hcase
    have hshown : p.shownUsage h partitions j = .ok (h.nextUsage j p counted) :=
      HostM.map_eq_ok_iff.2 ⟨counted, hcounted, rfl⟩
    obtain ⟨hends, hwritten⟩ := figures_of_writeUsage (h.nextUsage j p counted) h i k
    rw [show run = _ from hrun]
    refine ⟨hends.trans ⟨fun hboth => ?_, ?_⟩, fun hok => ⟨_, hshown, hwritten hok⟩⟩
    · exact ⟨hopen, ⟨_, hshown, hboth.1⟩, hboth.2⟩
    · rintro ⟨-, ⟨shown, hok, hwritable⟩, hpath⟩
      obtain rfl := Except.ok.inj (hok.symm.trans hshown)
      exact ⟨hwritable, hpath⟩

/-- Suppose that the operating system lists partitions.  If it refuses no question for a filesystem
but as it does where there is none, the figures are in range and the place from which the system was
started is found, then and only then the collector of disks ends without a fault.  It has written
the sums of size and use over the devices with an eligible partition, each by the first of them and
as nothing if that is not told; and where both sums are zero, what the platform knows of the root
filesystem.  Sums of whole numbers do not depend on an order; where some figure is a double, the
devices are added up in the order in which they are listed first.  So a partition that is not
eligible, or is behind an eligible one of the same device, makes no difference, wherever it is
listed. -/
theorem collectDisk_counts_devices (p : Platform) (h : Host) {partitions : List Partition}
    (hpartitions : h.partitions = .ok partitions) (i : SystemInfo) (j : Journal) :
    let run := p.collectDisk.runFrom h i j
    (run.1.1 = .ok () ↔
        (∀ device q, firstEligible? partitions device = some q → h.Measures q.mountpoint) ∧
          (∃ shown, p.shownUsage h partitions j = .ok shown ∧ shown.IsWritable) ∧
            ∃ path, bootPath.MayGive h path) ∧
      (run.1.1 = .ok () → ∃ shown, p.shownUsage h partitions j = .ok shown ∧
        sizeText shown.total = .ok run.1.2.diskTotal ∧
          sizeText shown.used = .ok run.1.2.diskUsage) ∧
      (∀ total used : String → Int,
        (∀ device ∈ eligibleDevices partitions,
          h.deviceUsage partitions device = ⟨total device, used device⟩) →
            h.devicesUsage partitions =
              .ok ⟨.whole (∑ device ∈ (eligibleDevices partitions).toFinset, total device),
                .whole (∑ device ∈ (eligibleDevices partitions).toFinset, used device)⟩) ∧
      ∀ before q behind all, partitions = before ++ behind → IsIdle before q →
        let run' := p.collectDisk.runFrom
          { h with partitions := .ok (before ++ q :: behind), allPartitions := all } i j
        run'.1.2.diskTotal = run.1.2.diskTotal ∧ run'.1.2.diskUsage = run.1.2.diskUsage := by
  intro run
  obtain ⟨hends, hwritten⟩ := ends_of_collectDisk p hpartitions i j
  refine ⟨hends, hwritten, fun total used hwhole => Host.devicesUsage_of_whole hwhole, ?_⟩
  intro before q behind all hbetween hq
  have hcounted : countedPartitions (before ++ q :: behind) = countedPartitions partitions := by
    rw [hbetween]
    exact countedPartitions_insert hq behind
  exact figures_of_collectDisk_eq p h
    { h with partitions := .ok (before ++ q :: behind), allPartitions := all } hpartitions rfl
    hcounted rfl rfl i j

/-- Two disks, of which one is mounted twice, and filesystems that do not count. -/
def mounts : List Partition :=
  [⟨"/dev/vdc", "/var/lib/kubelet/pods/x", "ext4"⟩, ⟨"/dev/vda1", "/", "Ext4"⟩,
    ⟨"/dev/vdb", "/data", "xfs"⟩, ⟨"tmpfs", "/run", "tmpfs"⟩]

/-- A host with these filesystems. -/
def manyMounts : Host where
  partitions := mounts
  usage := [("/", .ok ⟨42949672960, 10737418240⟩), ("/data", .ok ⟨107374182400, 1073741824⟩),
    ("/run", .ok ⟨1073741824, 0⟩), ("/var/lib/docker", .ok ⟨42949672960, 10737418240⟩)]

/-- A second mount of the first disk changes nothing. -/
theorem collectDisk_counts_devices_manyMounts :
    manyMounts.partitions = .ok mounts ∧
      (linux.collectDisk.runFrom manyMounts {} {}).1.1 = .ok () ∧
        let mount : Partition := ⟨"/dev/vda1", "/var/lib/docker", "ext4"⟩
        let before := mounts.take 2
        let behind := mounts.drop 2
        mounts = before ++ behind ∧ IsIdle before mount ∧
          let run := linux.collectDisk.runFrom
            { manyMounts with
              partitions := .ok (before ++ mount :: behind), allPartitions := .ok [] } {} {}
          run.1.2.diskTotal = "140.00 GB" ∧ run.1.2.diskUsage = "11.00 GB" := by
  obtain ⟨hends, hshown, -, hsame⟩ := collectDisk_counts_devices linux manyMounts rfl {} {}
  have hsum : linux.shownUsage manyMounts mounts {} = .ok ⟨150323855360, 11811160064⟩ := by
    decide +kernel
  have hended : (linux.collectDisk.runFrom manyMounts {} {}).1.1 = .ok () := by
    have hmeasures : ∀ m, manyMounts.Measures m := by
      intro m f hf
      obtain ⟨before, behind, husage, -⟩ := List.lookup_eq_some_iff.1 hf
      have hmem : (m, .error f) ∈ manyMounts.usage := by
        rw [husage]
        exact List.mem_append_right before List.mem_cons_self
      simp [manyMounts] at hmem
    exact hends.2 ⟨fun _ q _ => hmeasures q.mountpoint, ⟨_, hsum, by decide +kernel⟩, "", {}, rfl⟩
  obtain ⟨shown, hok, htotal, hused⟩ := hshown hended
  obtain rfl := Except.ok.inj (hok.symm.trans hsum)
  have hidle : IsIdle (mounts.take 2) ⟨"/dev/vda1", "/var/lib/docker", "ext4"⟩ := by
    decide +kernel
  obtain ⟨htotal', hused'⟩ := hsame _ _ (mounts.drop 2) (.ok []) rfl hidle
  have hfigures : sizeText 150323855360 = .ok "140.00 GB" ∧
      sizeText 11811160064 = .ok "11.00 GB" := by
    decide +kernel
  rw [hfigures.1, Except.ok.injEq] at htotal
  rw [hfigures.2, Except.ok.injEq] at hused
  refine ⟨rfl, hended, rfl, hidle, ?_⟩
  dsimp only
  exact ⟨htotal'.trans htotal.symm, hused'.trans hused.symm⟩

end Platform

end HostReport
