import HostReport.Graphics
import HostReport.Platform.Virtual
import HostReport.Processor.Feature
import HostReport.Processor.Table
import HostReport.Proofs.Text.Entry

/-!
# Listings one behind the other

A listing that is read line by line may be read in parts, if each part ends its line: what a part
tells is put together with what the others tell, and the earlier part counts where two tell of the
same thing.  So no part takes back or changes what is told by one before it.
-/

namespace HostReport

open Text

/-- The values of a table of processors of which the first one counts. -/
def ProcessorTable.values : List (ProcessorTable → String) := [model, cache, clock]

/-- Two profiles together, of which the first one counts for the keys of both. -/
def MacProfile.union (p q : MacProfile) : MacProfile :=
  p ++ q.filter fun e => !(p.lookup e.1).isSome

/-- Two lists of features together. -/
def ProcessorFeatures.or (f g : ProcessorFeatures) : ProcessorFeatures :=
  ⟨f.aes || g.aes, f.virtualization || g.virtualization⟩

section

variable {a : String} (ha : EndsLine a.toList) (b : String)

include ha

/-! ## What two listings tell together -/

namespace ProcessorTable

theorem value_ofText_append : ∀ value ∈ values,
    value (ofText (a ++ b)) = chooseText (value (ofText a)) (value (ofText b)) := by
  simp only [values, List.forall_mem_cons, ofText, entriesOf_append ha, firstValue_append,
    List.not_mem_nil, false_imp_iff, implies_true, and_self]

theorem has_ofText_append (flag : String) :
    (ofText (a ++ b)).has flag = ((ofText a).has flag || (ofText b).has flag) := by
  rw [Bool.eq_iff_iff, Bool.or_eq_true]
  simp only [has, List.contains_iff_mem, ofText, List.mem_eraseDups, entriesOf_append ha,
    List.flatMap_append, List.mem_append]

omit b in
theorem ofText_append_self : ofText (a ++ a) = ofText a := by
  have hself : ∀ s, chooseText s s = s := fun s => ite_self s
  have hflags : ∀ flags : List String, flags.removeAll flags = [] := fun flags =>
    List.filter_eq_nil_iff.2 fun flag hflag => by
      rw [List.elem_eq_true_of_mem hflag]
      decide
  simp only [ofText, entriesOf_append ha, firstValue_append, hself, List.flatMap_append,
    List.eraseDups_append, hflags, List.eraseDups_nil, List.append_nil]

end ProcessorTable

namespace MacProfile

theorem ofText_append : ofText (a ++ b) = (ofText a).union (ofText b) := by
  simp only [ofText, entriesOf_append ha, List.filter_append, firstEntries_append, union,
    lookup_firstEntries]

theorem lookup_ofText_append (key : String) :
    (ofText (a ++ b)).lookup key = ((ofText a).lookup key).or ((ofText b).lookup key) := by
  simp only [ofText, lookup_firstEntries, entriesOf_append ha, List.filter_append,
    List.lookup_append]

end MacProfile

theorem ProcessorFeatures.ofEntries_append :
    ofEntries (a ++ b) = (ofEntries a).or (ofEntries b) := by
  simp only [ofEntries, entriesOf_append ha, List.any_append, ProcessorFeatures.or, mk.injEq]
  constructor <;> ac_rfl

theorem Graphics.ofBusListing_append :
    ofBusListing (a ++ b) = ofBusListing a ++ ofBusListing b := by
  rw [ofBusListing, String.toList_append, lines_append ha, List.filterMap_append]
  rfl

/-- Of two listings one behind the other each reader puts together what it reads off either, and the
first one counts where both tell of the same.  So whatever is read off the first one is read off
both, and a table of processors behind itself tells nothing else. -/
theorem listings_append :
    ((∀ value ∈ ProcessorTable.values, value (.ofText (a ++ b)) =
        chooseText (value (.ofText a)) (value (.ofText b))) ∧
      (∀ flag, (ProcessorTable.ofText (a ++ b)).has flag =
        ((ProcessorTable.ofText a).has flag || (ProcessorTable.ofText b).has flag)) ∧
      (MacProfile.ofText (a ++ b) = (MacProfile.ofText a).union (.ofText b) ∧
        ∀ key, (MacProfile.ofText (a ++ b)).lookup key =
          ((MacProfile.ofText a).lookup key).or ((MacProfile.ofText b).lookup key)) ∧
      ProcessorFeatures.ofEntries (a ++ b) =
        (ProcessorFeatures.ofEntries a).or (.ofEntries b) ∧
      Graphics.ofBusListing (a ++ b) = Graphics.ofBusListing a ++ Graphics.ofBusListing b) ∧
    ((∀ value ∈ ProcessorTable.values, value (.ofText a) ≠ "" →
        value (.ofText (a ++ b)) = value (.ofText a)) ∧
      (∀ flag, (ProcessorTable.ofText a).has flag → (ProcessorTable.ofText (a ++ b)).has flag) ∧
      (∀ key, ∀ v ∈ (MacProfile.ofText a).lookup key,
        v ∈ (MacProfile.ofText (a ++ b)).lookup key) ∧
      ((ProcessorFeatures.ofEntries a).aes → (ProcessorFeatures.ofEntries (a ++ b)).aes) ∧
      ((ProcessorFeatures.ofEntries a).virtualization →
        (ProcessorFeatures.ofEntries (a ++ b)).virtualization) ∧
      Graphics.ofBusListing a <+: Graphics.ofBusListing (a ++ b)) ∧
    ProcessorTable.ofText (a ++ a) = ProcessorTable.ofText a := by
  have hvalue := ProcessorTable.value_ofText_append ha b
  have hflag := ProcessorTable.has_ofText_append ha b
  have hlookup := MacProfile.lookup_ofText_append ha b
  have hfeatures := ProcessorFeatures.ofEntries_append ha b
  have hbus := Graphics.ofBusListing_append ha b
  refine ⟨⟨hvalue, hflag, ⟨MacProfile.ofText_append ha b, hlookup⟩, hfeatures, hbus⟩,
    ⟨?_, ?_, ?_, ?_, ?_, ?_⟩, ProcessorTable.ofText_append_self ha⟩
  · intro value hmem hknown
    rw [hvalue value hmem, chooseText_of_not_isEmpty (mt String.isEmpty_iff.1 hknown)]
  · intro flag hhas
    rw [hflag, hhas, Bool.true_or]
  · intro key v hv
    rw [hlookup, Option.mem_def.1 hv]
    rfl
  · intro haes
    rw [hfeatures, ProcessorFeatures.or, haes, Bool.true_or]
  · intro hvirtualization
    rw [hfeatures, ProcessorFeatures.or, hvirtualization, Bool.true_or]
  · rw [hbus]
    exact List.prefix_append _ _

end

/-- The first listing tells one feature and the second one the other, and together they tell both.
-/
theorem listings_append_sample :
    let a := "cpu MHz: \nflags: fpu\nChip: Apple M2\nmachdep.cpu.features: FPU AES\n" ++
      "00:02.0 \"VGA\" \"Cirrus\" \"GD  5446\"\n"
    let b := "cpu MHz: 2400\nflags: vmx\nChip: M1\nkern.hv_support: 1\n" ++
      "01:00.0 \"3D\" \"NVIDIA\" \"H100\""
    EndsLine a.toList ∧
      (ProcessorTable.ofText (a ++ b)).clock = "2400" ∧
      (ProcessorTable.ofText (a ++ b)).has "fpu" = true ∧
      MacProfile.value (.ofText (a ++ b)) "Chip" = "Apple M2" ∧
      ProcessorFeatures.ofEntries a = ⟨true, false⟩ ∧
      ProcessorFeatures.ofEntries b = ⟨false, true⟩ ∧
      ProcessorFeatures.ofEntries (a ++ b) = ⟨true, true⟩ ∧
      Graphics.ofBusListing (a ++ b) = ["Cirrus GD 5446", "NVIDIA H100"] := by
  intro a b
  have ha : EndsLine a.toList := by decide +kernel
  obtain ⟨⟨hvalue, hflag, ⟨-, hlookup⟩, hfeatures, hbus⟩, -⟩ := listings_append ha b
  have hclock := hvalue ProcessorTable.clock <|
    List.mem_cons_of_mem _ <| List.mem_cons_of_mem _ List.mem_cons_self
  rw [hclock, hflag, MacProfile.value, hlookup, hfeatures, hbus]
  decide +kernel

end HostReport
