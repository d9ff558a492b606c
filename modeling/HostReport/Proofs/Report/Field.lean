import HostReport.Report.SystemInfo
import Mathlib.Data.List.Perm.Basic

/-!
# The fields of a record and their owners

Each field of a record is about one aspect of the host, and the collector of that aspect is the only
one to write it.  `SystemInfo.without` forgets an aspect: two records that agree without an aspect
agree in every field of the others, so that a write is shown to stay within its aspect by `rfl`.
Records that know nothing but an aspect each are put together in any order.
-/

namespace HostReport

/-- What a collector is about. -/
inductive Aspect where
  | host
  | cpu
  | memory
  | disk
  | gpu
  | tcp
  | nat
  deriving DecidableEq, Repr

namespace SystemInfo

/-- The fields of a record. -/
inductive Field where
  | cpuModel
  | cpuCores
  | cpuCache
  | aesNi
  | virtualization
  | memoryTotal
  | memoryUsage
  | swapTotal
  | swapUsage
  | virtioBalloon
  | ksm
  | diskTotal
  | diskUsage
  | bootPath
  | gpuModel
  | gpuStats
  | platform
  | kernel
  | arch
  | uptime
  | timezone
  | vmType
  | load
  | natType
  | tcpAcceleration
  deriving DecidableEq, Repr

namespace Field

/-- The text of a field. -/
def get : Field → SystemInfo → String
  | cpuModel => SystemInfo.cpuModel
  | cpuCores => SystemInfo.cpuCores
  | cpuCache => SystemInfo.cpuCache
  | aesNi => SystemInfo.aesNi
  | virtualization => SystemInfo.virtualization
  | memoryTotal => SystemInfo.memoryTotal
  | memoryUsage => SystemInfo.memoryUsage
  | swapTotal => SystemInfo.swapTotal
  | swapUsage => SystemInfo.swapUsage
  | virtioBalloon => SystemInfo.virtioBalloon
  | ksm => SystemInfo.ksm
  | diskTotal => SystemInfo.diskTotal
  | diskUsage => SystemInfo.diskUsage
  | bootPath => SystemInfo.bootPath
  | gpuModel => SystemInfo.gpuModel
  | gpuStats => SystemInfo.gpuStats
  | platform => SystemInfo.platform
  | kernel => SystemInfo.kernel
  | arch => SystemInfo.arch
  | uptime => SystemInfo.uptime
  | timezone => SystemInfo.timezone
  | vmType => SystemInfo.vmType
  | load => SystemInfo.load
  | natType => SystemInfo.natType
  | tcpAcceleration => SystemInfo.tcpAcceleration

/-- The aspect that a field is about. -/
def owner : Field → Aspect
  | cpuModel | cpuCores | cpuCache | aesNi | virtualization => .cpu
  | memoryTotal | memoryUsage | swapTotal | swapUsage | virtioBalloon | ksm => .memory
  | diskTotal | diskUsage | bootPath => .disk
  | gpuModel | gpuStats => .gpu
  | platform | kernel | arch | uptime | timezone | vmType | load => .host
  | natType => .nat
  | tcpAcceleration => .tcp

end Field

/-- Records are the same if their fields are. -/
theorem ext_get {i i' : SystemInfo} (hget : ∀ f : Field, f.get i = f.get i') : i = i' := by
  cases i
  cases i'
  simp only [mk.injEq]
  exact ⟨hget .cpuModel, hget .cpuCores, hget .cpuCache, hget .aesNi, hget .virtualization,
    hget .memoryTotal, hget .memoryUsage, hget .swapTotal, hget .swapUsage, hget .virtioBalloon,
    hget .ksm, hget .diskTotal, hget .diskUsage, hget .bootPath, hget .gpuModel, hget .gpuStats,
    hget .platform, hget .kernel, hget .arch, hget .uptime, hget .timezone, hget .vmType,
    hget .load, hget .natType, hget .tcpAcceleration⟩

/-- The record with nothing known about an aspect. -/
def without (a : Aspect) (i : SystemInfo) : SystemInfo :=
  match a with
  | .host =>
    { i with platform := "", kernel := "", arch := "", uptime := "", timezone := "", vmType := ""
             load := "" }
  | .cpu =>
    { i with cpuModel := "", cpuCores := "", cpuCache := "", aesNi := "", virtualization := "" }
  | .memory =>
    { i with memoryTotal := "", memoryUsage := "", swapTotal := "", swapUsage := ""
             virtioBalloon := "", ksm := "" }
  | .disk => { i with diskTotal := "", diskUsage := "", bootPath := "" }
  | .gpu => { i with gpuModel := "", gpuStats := "" }
  | .tcp => { i with tcpAcceleration := "" }
  | .nat => { i with natType := "" }

theorem get_without {f : Field} {a : Aspect} (howner : f.owner ≠ a) (i : SystemInfo) :
    f.get (i.without a) = f.get i := by
  cases a <;> cases f <;> first | rfl | exact absurd rfl howner

/-- Records that agree without an aspect agree in the fields of the others. -/
theorem get_eq_of_without_eq {i i' : SystemInfo} {a : Aspect} (hsame : i.without a = i'.without a)
    {f : Field} (howner : f.owner ≠ a) : f.get i = f.get i' := by
  rw [← get_without howner i, hsame, get_without howner i']

/-! ## Putting records together -/

theorem get_empty (f : Field) : f.get {} = "" := by
  cases f <;> rfl

theorem get_fill (f : Field) (i other : SystemInfo) :
    f.get (i.fill other) = chooseText (f.get i) (f.get other) := by
  cases f <;> rfl

theorem get_foldl_fill (f : Field) (i : SystemInfo) (parts : List SystemInfo) :
    f.get (parts.foldl fill i) = (parts.map f.get).foldl chooseText (f.get i) := by
  induction parts generalizing i with
  | nil => rfl
  | cons part parts ih => rw [List.foldl_cons, ih, get_fill, List.map_cons, List.foldl_cons]

/-- Texts of which all that are known are the same are put together to that one. -/
theorem foldl_chooseText_eq {ts : List String} {s v : String} (hs : s = "" ∨ s = v)
    (hts : ∀ t ∈ ts, t = "" ∨ t = v) (hv : v = "" ∨ v = s ∨ v ∈ ts) :
    ts.foldl chooseText s = v := by
  induction ts generalizing s with
  | nil =>
    rcases hs with rfl | rfl
    · rcases hv with rfl | rfl | hmem
      · rfl
      · rfl
      · exact absurd hmem List.not_mem_nil
    · rfl
  | cons t ts ih =>
    have ht := hts t List.mem_cons_self
    have hrest : ∀ t' ∈ ts, t' = "" ∨ t' = v := fun t' ht' => hts t' (List.mem_cons_of_mem t ht')
    rw [List.foldl_cons]
    rcases hs with rfl | rfl
    · refine ih (s := t) ht hrest ?_
      rcases hv with hv | hv | hv
      · exact .inl hv
      · exact .inl hv
      · exact .inr (List.mem_cons.1 hv)
    · by_cases hempty : s = ""
      · subst hempty
        exact ih ht hrest (.inl rfl)
      · have hkept : chooseText s t = s := by simp [chooseText, hempty]
        rw [hkept]
        exact ih (.inr rfl) hrest (.inr (.inl rfl))

/-- Records that know nothing but an aspect each are put together, in any order, to the record that
knows of each field what the one about its aspect knows. -/
theorem get_foldl_fill_of_owned {aspects : List Aspect} {record : Aspect → SystemInfo}
    (howned : ∀ a ∈ aspects, (record a).without a = without a {}) {parts : List SystemInfo}
    (hparts : parts.Perm (aspects.map record)) (f : Field) :
    f.get (parts.foldl fill {}) =
      if f.owner ∈ aspects then f.get (record f.owner) else "" := by
  have hforeign : ∀ a ∈ aspects, f.owner ≠ a → f.get (record a) = "" := by
    intro a ha howner
    rw [get_eq_of_without_eq (howned a ha) howner, get_empty]
  have htexts : ∀ t ∈ parts.map f.get, ∃ a ∈ aspects, t = f.get (record a) := by
    intro t ht
    obtain ⟨part, hpart, rfl⟩ := List.mem_map.1 ht
    obtain ⟨a, ha, rfl⟩ := List.mem_map.1 (hparts.mem_iff.1 hpart)
    exact ⟨a, ha, rfl⟩
  rw [get_foldl_fill, get_empty]
  by_cases hf : f.owner ∈ aspects
  · rw [if_pos hf]
    refine foldl_chooseText_eq (.inl rfl) (fun t ht => ?_) (.inr (.inr ?_))
    · obtain ⟨a, ha, rfl⟩ := htexts t ht
      by_cases howner : f.owner = a
      · exact .inr (by rw [howner])
      · exact .inl (hforeign a ha howner)
    · have howner : record f.owner ∈ parts := hparts.mem_iff.2 (List.mem_map_of_mem hf)
      exact List.mem_map_of_mem howner
  · rw [if_neg hf]
    refine foldl_chooseText_eq (.inl rfl) (fun t ht => ?_) (.inl rfl)
    obtain ⟨a, ha, rfl⟩ := htexts t ht
    exact .inl (hforeign a ha fun howner => hf (howner ▸ ha))

end SystemInfo

end HostReport
