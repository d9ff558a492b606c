import HostReport.Report.Complete
import HostReport.Proofs.Run

/-!
# What is reached, and what is asked for

A family is reached if one of its probe targets accepts a connection, and none is reached if a
socket refuses the time limit of a try.  Probing finds exactly the families that are reached and
leaves nothing in the journal but the probes, unless the time limit is refused with a fault that
ends it; a report is then made of a network part over these families and a system part.
-/

namespace HostReport

namespace Host

variable (h : Host) (settings : Settings)

/-- Whether one of the probe targets of a family accepts a connection, tried with a time limit that
a socket takes. -/
def Reaches (family : Family) : Prop :=
  h.timeRefusal settings.precheckTimeout = none ∧
    ∃ target ∈ probeTargets family, target ∈ h.reachable

instance (family : Family) : Decidable (h.Reaches settings family) :=
  inferInstanceAs (Decidable (_ ∧ ∃ target ∈ probeTargets family, target ∈ h.reachable))

/-- The families that a host reaches. -/
def reached : List Family := [.ipv4, .ipv6].filter fun family => decide (h.Reaches settings family)

/-- The stack of a host by the families that it reaches. -/
def stack : Stack :=
  Stack.ofReached (decide (h.Reaches settings .ipv4)) (decide (h.Reaches settings .ipv6))

/-- The targets that are tried: all up to the first that accepts a connection. -/
def tried : List String → List String
  | [] => []
  | target :: more => target :: if target ∈ h.reachable then [] else tried more

/-- The probes of a family. -/
def probesOf (family : Family) : List (String × String) :=
  (h.tried (probeTargets family)).map (family.name, ·)

/-- The journal after probing; nothing is tried if the time limit is refused. -/
def probed (j : Journal) : Journal :=
  if h.timeRefusal settings.precheckTimeout = none then
    { j with probes := j.probes ++ (h.probesOf .ipv4 ++ h.probesOf .ipv6) }
  else j

/-- The fault of a refused time limit with which probing ends, none if it does not. -/
def probeFault? : Option Fault :=
  (h.timeRefusal settings.precheckTimeout).filter fun f => !f.isSystem

end Host

/-! ## The stack -/

section

variable {h : Host} {settings : Settings}

theorem Host.mem_reached_iff {family : Family} :
    family ∈ h.reached settings ↔ h.Reaches settings family := by
  cases family <;> simp [reached]

theorem Host.reached_eq_nil_iff :
    h.reached settings = [] ↔ ∀ family, ¬h.Reaches settings family := by
  simp only [List.eq_nil_iff_forall_not_mem, mem_reached_iff]

/-- The check of a host is over the families that it reaches. -/
theorem Host.families_eq_reached {check : CheckType}
    (hcheck : (h.stack settings).check? = some check) : check.families = h.reached settings := by
  rw [stack] at hcheck
  rw [reached]
  cases h4 : decide (h.Reaches settings .ipv4) <;> cases h6 : decide (h.Reaches settings .ipv6) <;>
    rw [h4, h6] at hcheck <;> cases hcheck <;> simp [CheckType.families, h4, h6]

theorem Host.stack_eq_offline_of_reached_eq_nil (hnone : h.reached settings = []) :
    h.stack settings = .offline := by
  have hunreached := reached_eq_nil_iff.1 hnone
  rw [stack, decide_eq_false (hunreached .ipv4), decide_eq_false (hunreached .ipv6)]
  rfl

end

/-! ## Probing -/

section

variable {h : Host} {timeout : Binary64}

theorem runFrom_reachesAny (htime : h.timeRefusal timeout = none) (family : Family)
    (targets : List String) (j : Journal) :
    (reachesAny timeout family targets).runFrom h j =
      (.ok (decide (∃ target ∈ targets, target ∈ h.reachable)),
        { j with probes := j.probes ++ (h.tried targets).map (family.name, ·) }) := by
  induction targets generalizing j with
  | nil => simp [reachesAny, Host.tried]
  | cons target more ih =>
    rw [reachesAny, HostM.runFrom_bind_of_ok h j (HostM.runFrom_read h j), htime]
    dsimp only
    rw [HostM.runFrom_bind_of_ok h j (HostM.runFrom_modify h j _)]
    by_cases ht : target ∈ h.reachable
    · simp [ht, Host.tried]
    · simp [ht, Host.tried, ih]

/-- Where a socket refuses the time limit with a fault of the system, no target is reached. -/
theorem runFrom_reachesAny_of_isSystem {f : Fault} (htime : h.timeRefusal timeout = some f)
    (hf : f.isSystem = true) (family : Family) (targets : List String) (j : Journal) :
    (reachesAny timeout family targets).runFrom h j = (.ok false, j) := by
  induction targets with
  | nil => rfl
  | cons target more ih =>
    rw [reachesAny, HostM.runFrom_bind_of_ok h j (HostM.runFrom_read h j), htime]
    dsimp only
    rw [if_pos hf, ih]

/-- Where it refuses it with another fault, the first try ends with the fault. -/
theorem runFrom_reachesAny_of_not_isSystem {f : Fault} (htime : h.timeRefusal timeout = some f)
    (hf : f.isSystem = false) (family : Family) (j : Journal) :
    (reachesAny timeout family (probeTargets family)).runFrom h j = (.error f, j) := by
  have hfirst (target : String) (more : List String) :
      (reachesAny timeout family (target :: more)).runFrom h j = (.error f, j) := by
    rw [reachesAny, HostM.runFrom_bind_of_ok h j (HostM.runFrom_read h j), htime]
    dsimp only
    rw [hf]
    rfl
  cases family with
  | ipv4 => exact hfirst _ _
  | ipv6 => exact hfirst _ _

/-- Both families are tried before the faults of either count. -/
theorem runFrom_probeStack_of {v4 v6 : Except Fault Bool} {j j4 j6 : Journal}
    (h4 : (reachesAny timeout .ipv4 (probeTargets .ipv4)).runFrom h j = (v4, j4))
    (h6 : (reachesAny timeout .ipv6 (probeTargets .ipv6)).runFrom h j4 = (v6, j6)) :
    (probeStack timeout).runFrom h j =
      (v4.bind fun r4 => v6.map fun r6 => Stack.ofReached r4 r6, j6) := by
  have hv4 := HostM.runFrom_attempt h j (reachesAny timeout .ipv4 (probeTargets .ipv4))
  have hv6 := HostM.runFrom_attempt h j4 (reachesAny timeout .ipv6 (probeTargets .ipv6))
  rw [h4] at hv4
  rw [h6] at hv6
  rw [probeStack, HostM.runFrom_bind_of_ok h j hv4, HostM.runFrom_bind_of_ok h j4 hv6]
  cases v4 with
  | error f => rfl
  | ok r4 => cases v6 <;> rfl

/-- Probing ends with the fault of a time limit that is refused with another fault than one of the
system, and else finds the families that are reached. -/
theorem runFrom_probeStack (h : Host) (settings : Settings) (j : Journal) :
    (probeStack settings.precheckTimeout).runFrom h j =
      ((h.probeFault? settings).elim (.ok (h.stack settings)) .error, h.probed settings j) := by
  rw [Host.probeFault?, Host.stack, Host.probed]
  cases htime : h.timeRefusal settings.precheckTimeout with
  | none =>
    rw [runFrom_probeStack_of (runFrom_reachesAny htime .ipv4 _ j)
      (runFrom_reachesAny htime .ipv6 _ _)]
    simp [Host.Reaches, Host.probesOf, htime, Except.bind, Except.map, List.append_assoc]
  | some f =>
    cases hf : f.isSystem with
    | true =>
      rw [runFrom_probeStack_of (runFrom_reachesAny_of_isSystem htime hf .ipv4 _ j)
        (runFrom_reachesAny_of_isSystem htime hf .ipv6 _ j)]
      simp [Host.Reaches, Option.filter_some, htime, hf, Except.bind, Except.map]
    | false =>
      rw [runFrom_probeStack_of (runFrom_reachesAny_of_not_isSystem htime hf .ipv4 j)
        (runFrom_reachesAny_of_not_isSystem htime hf .ipv6 j)]
      simp [Option.filter_some, hf, Except.bind]

end

/-- A tool is looked for in the facts of the host alone. -/
theorem exists_runFrom_findTool (name : String) (h : Host) :
    ∃ tool, ∀ j, (Host.findTool name).runFrom h j = (.ok tool, j) := by
  simp only [Host.findTool, HostM.runFrom_bind, HostM.runFrom_read]
  split
  · split
    · exact ⟨_, fun _ => rfl⟩
    · exact ⟨_, fun _ => rfl⟩
  · exact ⟨_, fun _ => rfl⟩

/-- Choosing the platform leaves nothing in the journal. -/
theorem exists_runFrom_select (h : Host) :
    ∃ p, ∀ j, Platform.select.runFrom h j = (.ok p, j) := by
  have hselect (j : Journal) : Platform.select.runFrom h j =
      (Platform.ofSystem h.system).runFrom h j := by
    rw [Platform.select, HostM.runFrom_bind_of_ok h j (HostM.runFrom_read h j)]
    rfl
  simp only [hselect]
  unfold Platform.ofSystem
  split
  · exact ⟨_, fun _ => rfl⟩
  split
  · exact ⟨_, fun _ => rfl⟩
  split
  · exact ⟨_, fun _ => rfl⟩
  split
  · obtain ⟨tool, htool⟩ := exists_runFrom_findTool "sysctl" h
    exact ⟨.bsd tool, fun j => HostM.runFrom_bind_of_ok h j (htool j) _⟩
  · exact ⟨_, fun _ => rfl⟩

/-! ## The two parts of a report -/

/-- A report is made of the network part over the stack of the host and of the system part, unless
probing ends with a fault. -/
theorem exists_runFrom_buildReport (settings : Settings) (h : Host) :
    ∃ p, (∀ j, Platform.select.runFrom h j = (.ok p, j)) ∧
      ∀ j, (buildReport settings).runFrom h j =
        match h.probeFault? settings with
        | some f => (.error f, h.probed settings j)
        | none => (do
            let block ← reachedReport p settings (h.stack settings)
            let info ← p.collectAll settings (h.stack settings ≠ .offline)
            return mergeLineEnds (info.render settings.language ++ block) : HostM String).runFrom h
              (h.probed settings j) := by
  obtain ⟨p, hp⟩ := exists_runFrom_select h
  refine ⟨p, hp, fun j => ?_⟩
  have hprobe := runFrom_probeStack h settings j
  rw [buildReport, HostM.runFrom_bind_of_ok h j (hp j)]
  cases hfault : h.probeFault? settings with
  | some f =>
    rw [hfault] at hprobe
    rw [HostM.runFrom_bind, hprobe]
    rfl
  | none =>
    rw [hfault] at hprobe
    rw [HostM.runFrom_bind_of_ok h j hprobe]
    simp only [systemReport, bind_assoc, pure_bind]

/-- A report that is given has been put together from two parts that were given. -/
theorem exists_parts_of_buildReport {settings : Settings} {h : Host} {j : Journal} {text : String}
    (hreport : ((buildReport settings).runFrom h j).1 = .ok text) :
    ∃ p block info, (Platform.select.runFrom h j).1 = .ok p ∧
      ((reachedReport p settings (h.stack settings)).runFrom h (h.probed settings j)).1 =
        .ok block ∧
      ((p.collectAll settings (h.stack settings ≠ .offline)).runFrom h
        ((reachedReport p settings (h.stack settings)).runFrom h (h.probed settings j)).2).1 =
          .ok info ∧
      text = mergeLineEnds (info.render settings.language ++ block) := by
  obtain ⟨p, hp, hrun⟩ := exists_runFrom_buildReport settings h
  rw [hrun j] at hreport
  cases hfault : h.probeFault? settings with
  | some f =>
    rw [hfault] at hreport
    exact nomatch hreport
  | none =>
    rw [hfault] at hreport
    obtain ⟨block, hblock, hrest⟩ := (HostM.runFrom_bind_eq_ok_iff ..).1 hreport
    rw [HostM.runFrom_bind_eq_ok_iff] at hrest
    obtain ⟨info, hinfo, hlast⟩ := hrest
    exact ⟨p, block, info, by rw [hp], hblock, hinfo, (Except.ok.inj hlast).symm⟩

end HostReport
