import HostReport.Proofs.Collector.Caption
import HostReport.Proofs.Processor.Feature

/-!
# The state of features on a BSD

A BSD lists all its kernel variables at once, after it was asked for some of them one by one, and
shows two features as its listing is read.  So what is shown follows from the listing that is told
next (`showsFeatures_collectCpu`), and the states are those that the variables mean exactly if every
variable that tells a feature is fair.
-/

namespace HostReport

/-- The command that lists all variables is another one than that for a variable. -/
theorem Host.nextOutput_asking_listing (h : Host) (j : Journal) (tool name : String) :
    h.nextOutput (j.asking tool name) [tool, "-a"] = h.nextOutput j [tool, "-a"] := by
  refine h.nextOutput_asking j false ?_
  simp [String.intercalate_cons_of_ne_nil, String.append_assoc, String.ext_iff]

namespace Platform

open ProcessorFeatures Text

/-- Whether a record shows features in the words of a platform. -/
def Shows (p : Platform) (features : ProcessorFeatures) (info : SystemInfo) : Prop :=
  info.aesNi = p.status features.aes ∧ info.virtualization = p.status features.virtualization

variable {tool : String} {h : Host}

/-- Whether a collector of a BSD shows the features in the listing that is told next. -/
def ShowsFeatures (tool : String) (h : Host) (c : Collector Unit) : Prop :=
  ∀ i j, (bsd (some tool)).Shows (ofAssignments (h.nextOutput j [tool, "-a"]))
    (c.runFrom h i j).1.2

theorem showsFeatures_write_bind {change : SystemInfo → SystemInfo} {next : Unit → Collector Unit}
    (hnext : ShowsFeatures tool h (next ())) :
    ShowsFeatures tool h (Collector.write change >>= next) := fun i j => hnext (change i) j

theorem showsFeatures_record_bind {next : SystemInfo → Collector Unit}
    (hnext : ∀ info, ShowsFeatures tool h (next info)) :
    ShowsFeatures tool h (getThe SystemInfo >>= next) := fun i j => hnext i i j

/-- To ask for a variable makes no difference to the listing that is told next. -/
theorem showsFeatures_variable_bind {name : String} {next : String → Collector Unit}
    (hnext : ∀ value, ShowsFeatures tool h (next value)) :
    ShowsFeatures tool h (liftM (kernelVariableBy (some tool) name) >>= next) := by
  intro i j
  rw [Collector.runFrom_lift_bind_of_ok h i j (h.runFrom_kernelVariableBy j _ _),
    ← h.nextOutput_asking_listing j tool name]
  exact hnext _ i _

theorem showsFeatures_writeBsdCpu :
    ShowsFeatures tool h ((bsd (some tool)).writeBsdCpu (some tool)) := by
  rw [writeBsdCpu.eq_def]
  refine showsFeatures_variable_bind fun model => ?_
  extract_lets writeFeatures writeCores
  have hfeatures : ShowsFeatures tool h (writeFeatures ()) := by
    intro i j
    have hlisting := Host.runFrom_outputOf_next (h := h) [tool, "-a"] false j
    simp only [writeFeatures]
    rw [Collector.runFrom_lift_bind_of_ok h i j hlisting]
    exact ⟨rfl, rfl⟩
  have hcores : ShowsFeatures tool h (writeCores ()) := by
    refine showsFeatures_record_bind fun info => ?_
    split
    · refine showsFeatures_variable_bind fun count => ?_
      split
      · exact showsFeatures_write_bind hfeatures
      · exact hfeatures
    · exact hfeatures
  split
  · exact showsFeatures_variable_bind fun clock => showsFeatures_write_bind hcores
  · exact hcores

theorem showsFeatures_collectCpu (tool : String) {h : Host} (hcount : h.CanCount) :
    ShowsFeatures tool h (bsd (some tool)).collectCpu := by
  intro i j
  obtain ⟨cores, j', hj', hbasics⟩ :=
    (exists_runFrom_writeCpuBasics (bsd (some tool)) h i j).1 hcount
  have hlisting : h.nextOutput j' [tool, "-a"] = h.nextOutput j [tool, "-a"] := by
    rcases List.mem_pair.1 hj' with rfl | rfl
    · rfl
    · exact h.nextOutput_asking_listing j tool _
  rw [collectCpu.eq_def, Collector.runFrom_bind_of_ok h i j hbasics, ← hlisting]
  exact showsFeatures_writeBsdCpu _ j'

theorem status_eq_enabled_iff (p : Platform) (isOn : Bool) :
    p.status isOn = p.enabled ↔ isOn = true := by
  have hne : p.disabled ≠ p.enabled := by
    cases p with
    | windows => decide
    | _ =>
      change "❌ Disabled" ≠ "✔️ Enabled"
      decide
  cases isOn with
  | false => exact iff_of_false hne nofun
  | true => exact iff_of_true rfl rfl

/-- A listing of variables is read for features wherever the name of their variables stands: for
those of numbers with an equals sign and a number behind it, be it zero, and for that of the AES
device with a colon and anything but line feeds behind it.  Where the variables mention features by
their names alone, the features are read off the line of each variable; and a listing tells what its
variables mean, as does every choice among them and in any order, exactly if all of them are fair.
A BSD shows a feature as enabled exactly if it is read from the listing that is told next. -/
theorem features_of_listing (text : String) (vs : List ListedVariable) (tool : String) (h : Host)
    (i : SystemInfo) (j : Journal) :
    (((ofAssignments text).aes = true ↔
        OccursBefore IsAssignment "crypto.aesni".toList text.toList ∨
          OccursBefore IsDescription aesDevice.toList text.toList) ∧
      ((ofAssignments text).virtualization = true ↔
        OccursBefore IsAssignment "hw.vmx".toList text.toList ∨
          OccursBefore IsAssignment "hw.svm".toList text.toList)) ∧
    ((∀ v ∈ vs, v.IsQuiet) →
      (IsWrittenAs text.toList (vs.map ListedVariable.line) →
        ofAssignments text = readFeatures vs) ∧
      ((∀ (us : List ListedVariable) (text' : String), us ⊆ vs →
          IsWrittenAs text'.toList (us.map ListedVariable.line) →
            ofAssignments text' = toldFeatures us) ↔
        ∀ v ∈ vs, v.IsFair)) ∧
    (h.CanCount →
      let p := bsd (some tool)
      let info := (p.collectCpu.runFrom h i j).1.2
      let features := ofAssignments (h.nextOutput j [tool, "-a"])
      (info.aesNi = p.enabled ↔ features.aes = true) ∧
        (info.virtualization = p.enabled ↔ features.virtualization = true)) := by
  have hread : ∀ (us : List ListedVariable) (text' : String), (∀ v ∈ us, v.IsQuiet) →
      IsWrittenAs text'.toList (us.map ListedVariable.line) →
        ofAssignments text' = readFeatures us := fun us text' hus htext =>
    (ofAssignments_of_isWrittenAs htext).trans (ofAssignments_listing hus)
  refine ⟨⟨?_, ?_⟩, fun hvs => ⟨fun htext => hread vs text hvs htext,
    ⟨fun hall v hv => ?_, fun hfair us text' hus htext => ?_⟩⟩, fun hcount => ?_⟩
  · rw [ofAssignments, Bool.or_eq_true, isSet_iff (by decide), hasAesDevice_iff]
  · rw [ofAssignments, Bool.or_eq_true, isSet_iff (by decide), isSet_iff (by decide)]
  · -- a variable alone is a listing, too
    have hquiet : ∀ u ∈ [v], u.IsQuiet := List.forall_mem_singleton.2 (hvs v hv)
    have hwritten : IsWrittenAs (String.ofList (listing [v])).toList
        ([v].map ListedVariable.line) := .inl String.toList_ofList
    have htold := hall [v] _ (by simpa using hv) hwritten
    rw [hread [v] _ hquiet hwritten] at htold
    exact (readFeatures_singleton_iff v).1 htold
  · rw [hread us text' (fun u hu => hvs u (hus hu)) htext]
    exact readFeatures_eq_of_isFair fun u hu => hfair u (hus hu)
  · intro p info features
    obtain ⟨haes, hvirtualization⟩ := showsFeatures_collectCpu tool hcount i j
    rw [haes, hvirtualization]
    exact ⟨status_eq_enabled_iff p _, status_eq_enabled_iff p _⟩

/-- A listing in which the processor has both features. -/
def fairListing : List ListedVariable :=
  [{ name := "kern.ostype".toList
     mark := .colon
     value := "FreeBSD".toList },
   { name := aesDevice.toList
     mark := .colon
     value := "AES-CBC,AES-XTS".toList },
   { name := "hw.vmx".toList
     mark := .equals
     value := "1".toList }]

/-- A host with a tool that prints this listing. -/
def fairHost : Host where
  commands := [("/sbin/sysctl -a", [.exited 0 (String.ofList (listing fairListing)) ""])]

theorem features_of_listing_fairListing :
    (∀ v ∈ fairListing, v.IsQuiet) ∧ (∀ v ∈ fairListing, v.IsFair) ∧ fairHost.CanCount ∧
      let p := bsd (some "/sbin/sysctl")
      let info := (p.collectCpu.runFrom fairHost {} {}).1.2
      ofAssignments (String.ofList (listing fairListing)) = toldFeatures fairListing ∧
        info.aesNi = p.enabled ∧ info.virtualization = p.enabled := by
  obtain ⟨-, hlisting, hshown⟩ := features_of_listing (String.ofList (listing fairListing))
    fairListing "/sbin/sysctl" fairHost {} {}
  have hquiet : ∀ v ∈ fairListing, v.IsQuiet := by decide
  have hfair : ∀ v ∈ fairListing, v.IsFair := by decide
  have hcount : fairHost.CanCount := ⟨none, rfl, nofun⟩
  have htold := (hlisting hquiet).2.2 hfair fairListing
    (String.ofList (listing fairListing)) (List.Subset.refl _) (.inl String.toList_ofList)
  have hfeatures : toldFeatures fairListing = ⟨true, true⟩ := by decide
  have hprinted : fairHost.nextOutput {} ["/sbin/sysctl", "-a"] =
      String.ofList (listing fairListing) := rfl
  obtain ⟨haes, hvirtualization⟩ := hshown hcount
  rw [hprinted, htold, hfeatures] at haes hvirtualization
  exact ⟨hquiet, hfair, hcount, htold, haes.2 rfl, hvirtualization.2 rfl⟩

/-- A listing in which the processor does not support virtual machines. -/
def zeroListing : List ListedVariable :=
  [{ name := "hw.vmx".toList
     mark := .equals
     value := "0".toList }]

/-- A listing whose variables mention features by their names alone may be read otherwise than it is
meant: a zero counts as a number. -/
theorem not_ofAssignments_toldFeatures :
    ¬∀ (vs : List ListedVariable) (text : String), (vs.map ListedVariable.name).Nodup →
      (∀ v ∈ vs, v.IsQuiet) → IsWrittenAs text.toList (vs.map ListedVariable.line) →
        ofAssignments text = toldFeatures vs := by
  intro hall
  have hquiet : ∀ v ∈ zeroListing, v.IsQuiet := by decide
  have hzero := hall zeroListing (String.ofList (listing zeroListing)) (by decide) hquiet
    (.inl String.toList_ofList)
  have hread : ofAssignments (String.ofList (listing zeroListing)) = ⟨false, true⟩ := by decide
  have htold : toldFeatures zeroListing = ⟨false, false⟩ := by decide
  rw [hread, htold] at hzero
  exact absurd hzero (by decide)

end Platform

end HostReport
