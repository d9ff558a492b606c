import HostReport.Proofs.Host.Figures

/-!
# What is found out about filesystems

The operating system tells size and use of a filesystem, or refuses to.  What it refuses as it does
where there is no such filesystem counts as nothing; any other refusal goes on.  Several filesystems
are measured and added up one after another, so there are two ways in which that may fail: one of
them is refused, or a sum is out of range (`failsOnly_measuredTotal`).
-/

namespace HostReport

open HostM

/-- The sum of several sizes and uses, from the first to the last. -/
def Usage.sum (usages : List Usage) : Except Fault Usage := usages.foldlM Usage.add ⟨0, 0⟩

namespace Host

variable (h : Host)

/-- Size and use of a filesystem, as far as the operating system tells. -/
def usageOf (mountpoint : String) : Usage :=
  match find h.usage mountpoint with
  | some (.ok u) => u
  | _ => ⟨0, 0⟩

/-- Whether the operating system tells what a filesystem has, or refuses to as it does where there
is none. -/
def Measures (mountpoint : String) : Prop :=
  ∀ f, find h.usage mountpoint = some (.error f) → f.isSystem = true

/-- What is found out about a filesystem. -/
def measured (mountpoint : String) : Except Fault Usage :=
  match find h.usage mountpoint with
  | some (.error f) => if f.isSystem then .ok ⟨0, 0⟩ else .error f
  | _ => .ok (h.usageOf mountpoint)

/-- What is found out about several filesystems together. -/
def measuredTotal (partitions : List Partition) : Except Fault Usage :=
  partitions.foldlM (fun sum q => h.measured q.mountpoint >>= sum.add) ⟨0, 0⟩

/-- Size and use of all filesystems that are counted. -/
def countedUsage (partitions : List Partition) : Except Fault Usage :=
  Usage.sum ((Platform.countedPartitions partitions).map (h.usageOf ·.mountpoint))

/-! ## One filesystem -/

theorem measured_eq_ok_iff (mountpoint : String) (u : Usage) :
    h.measured mountpoint = .ok u ↔ h.Measures mountpoint ∧ u = h.usageOf mountpoint := by
  rw [measured, Measures, usageOf]
  generalize find h.usage mountpoint = found
  have htold (v : Usage) (hopen : ∀ f, found = some (.error f) → f.isSystem = true) :
      (Except.ok v : Except Fault Usage) = .ok u ↔
        (∀ f, found = some (.error f) → f.isSystem = true) ∧ u = v :=
    ⟨fun hok => ⟨hopen, (Except.ok.inj hok).symm⟩, fun hboth => congrArg Except.ok hboth.2.symm⟩
  rcases found with _ | f | v
  · refine htold _ fun f hf => ?_
    cases hf
  · by_cases hf : f.isSystem = true
    · dsimp only
      rw [if_pos hf]
      refine htold _ fun f' heq => ?_
      cases heq
      exact hf
    · dsimp only
      rw [if_neg hf]
      refine iff_of_false (fun hok => ?_) fun hboth => hf (hboth.1 f rfl)
      cases hok
  · refine htold _ fun f hf => ?_
    cases hf

/-- Measuring a filesystem fails by what the operating system refuses. -/
theorem failsOnly_measured (mountpoint : String) :
    FailsOnly (h.measured mountpoint) fun f =>
      find h.usage mountpoint = some (.error f) ∧ f.isSystem = false := by
  rw [measured]
  split
  · rename_i f hfound
    split
    · exact failsOnly_ok _
    · exact failsOnly_error ⟨hfound, Bool.eq_false_iff.2 ‹_›⟩
  · exact failsOnly_ok _

theorem runFrom_usageOrNothing (j : Journal) (mountpoint : String) :
    (Platform.usageOrNothing mountpoint).runFrom h j = (h.measured mountpoint, j) := by
  rw [Platform.usageOrNothing, runFrom_orElseOn, diskUsage,
    runFrom_bind_of_ok h j (runFrom_read h j), measured, usageOf]
  generalize find h.usage mountpoint = found
  rcases found with _ | f | u
  · rfl
  · dsimp only
    rw [runFrom_ofExcept]
    dsimp only
    split
    · rfl
    · rfl
  · rfl

/-! ## Several filesystems -/

/-- Measuring leaves no trace. -/
theorem runFrom_totalUsage (j : Journal) (partitions : List Partition) :
    (Platform.totalUsage partitions).runFrom h j = (h.measuredTotal partitions, j) := by
  rw [Platform.totalUsage, measuredTotal]
  generalize (⟨0, 0⟩ : Usage) = sum
  induction partitions generalizing sum with
  | nil => rfl
  | cons q partitions ih =>
    rw [List.foldlM_cons, List.foldlM_cons, runFrom_bind, runFrom_bind, runFrom_usageOrNothing]
    cases h.measured q.mountpoint with
    | error f => rfl
    | ok u =>
      dsimp only
      rw [runFrom_ofExcept]
      change _ = ((sum.add u).bind _, j)
      cases sum.add u with
      | error f => rfl
      | ok sum' => exact ih sum'

/-- All filesystems are measured exactly if none is closed and the sum is not out of range. -/
theorem measuredTotal_eq_ok_iff (partitions : List Partition) (total : Usage) :
    h.measuredTotal partitions = .ok total ↔
      (∀ q ∈ partitions, h.Measures q.mountpoint) ∧
        Usage.sum (partitions.map (h.usageOf ·.mountpoint)) = .ok total := by
  rw [measuredTotal, Usage.sum]
  generalize (⟨0, 0⟩ : Usage) = sum
  induction partitions generalizing sum with
  | nil => simp
  | cons q partitions ih =>
    simp only [List.foldlM_cons, List.map_cons, List.forall_mem_cons, bind_eq_ok_iff,
      measured_eq_ok_iff, ih]
    constructor
    · rintro ⟨sum', ⟨u, ⟨hq, rfl⟩, hsum⟩, hrest, htotal⟩
      exact ⟨⟨hq, hrest⟩, sum', hsum, htotal⟩
    · rintro ⟨⟨hq, hrest⟩, sum', hsum, htotal⟩
      exact ⟨sum', ⟨_, ⟨hq, rfl⟩, hsum⟩, hrest, htotal⟩

/-- Measuring several filesystems fails by what is refused of one of them, or out of range where
their sum is. -/
theorem failsOnly_measuredTotal (partitions : List Partition) :
    FailsOnly (h.measuredTotal partitions) fun f =>
      (∃ q ∈ partitions, find h.usage q.mountpoint = some (.error f) ∧ f.isSystem = false) ∨
        f = .outOfRange ∧
          ∀ total, Usage.sum (partitions.map (h.usageOf ·.mountpoint)) ≠ .ok total := by
  rw [measuredTotal, Usage.sum]
  generalize (⟨0, 0⟩ : Usage) = sum
  induction partitions generalizing sum with
  | nil => exact failsOnly_ok sum
  | cons q partitions ih =>
    simp only [List.foldlM_cons, List.map_cons, ne_eq, bind_eq_ok_iff]
    refine FailsOnly.bind (FailsOnly.bind (fun f herror => ?_) fun u hu f herror => ?_)
      fun sum' hsum' f herror => ?_
    · exact .inl ⟨q, List.mem_cons_self, h.failsOnly_measured q.mountpoint f herror⟩
    · obtain rfl := ((h.measured_eq_ok_iff q.mountpoint u).1 hu).2
      refine .inr ⟨Usage.failsOnly_add _ _ f herror, ?_⟩
      rintro total ⟨sum', hsum, -⟩
      exact nomatch herror.symm.trans hsum
    · obtain ⟨u, hu, hsum⟩ := bind_eq_ok_iff.1 hsum'
      obtain rfl := ((h.measured_eq_ok_iff q.mountpoint u).1 hu).2
      rcases ih sum' f herror with ⟨p, hp, hrefused⟩ | ⟨hf, hrange⟩
      · exact .inl ⟨p, List.mem_cons_of_mem q hp, hrefused⟩
      · refine .inr ⟨hf, ?_⟩
        rintro total ⟨sum'', hsum'', htotal⟩
        obtain rfl := Except.ok.inj (hsum.symm.trans hsum'')
        exact hrange total htotal

end Host

end HostReport
