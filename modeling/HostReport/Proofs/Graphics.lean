import HostReport.Graphics
import HostReport.Proofs.Text.Line
import HostReport.Proofs.Text.Search
import HostReport.Proofs.Text.ShellWord

/-!
# Graphics devices in the listing of a bus

A listing has a line for each device: its slot, then class, vendor and name in double quotes, then
further fields.  Reading undoes the quoting whatever the fields hold, so a listing tells the names
of the devices whose class is one of graphics, in order, and loses none of them.
-/

namespace HostReport.Graphics

open Text Text.ShellWord

/-! ## Records -/

/-- A device as the listing of a bus shows it. -/
structure BusRecord where
  slot : List Char
  deviceClass : List Char
  vendor : List Char
  device : List Char
  /-- The fields behind the name, as they are written. -/
  more : List WrittenWord := []
  slot_ne_nil : slot ≠ [] := by decide
  slot_plain : ∀ c ∈ slot, isBlank c = false ∧ isSpecial c = false := by decide
  class_oneLine : ∀ c ∈ deviceClass, isLineBreak c = false := by decide
  vendor_oneLine : ∀ c ∈ vendor, isLineBreak c = false := by decide
  device_oneLine : ∀ c ∈ device, isLineBreak c = false := by decide
  more_oneLine : ∀ w ∈ more, ∀ c ∈ w.text, isLineBreak c = false := by decide

namespace BusRecord

variable (r : BusRecord)

/-- The line of a device. -/
def line : List Char :=
  joinWith [' '] (r.slot :: inQuotes r.deviceClass :: inQuotes r.vendor :: inQuotes r.device ::
    r.more.map WrittenWord.text)

/-- Whether the class of a device is one of graphics. -/
def IsGraphics : Prop := "VGA".toList <:+: r.deviceClass ∨ "3D".toList <:+: r.deviceClass

instance : DecidablePred IsGraphics := fun _ => inferInstanceAs (Decidable (_ ∨ _))

/-- Vendor and name of a device, with every run of blanks written as one space. -/
def name : String := collapseBlanks (String.ofList r.vendor ++ " " ++ String.ofList r.device)

theorem split_line : split r.line =
    some (r.slot :: r.deviceClass :: r.vendor :: r.device :: r.more.map WrittenWord.word) := by
  have hslot : Spells r.slot r.slot := spells_of_plain r.slot_ne_nil fun c hc =>
    (r.slot_plain c hc).2
  exact split_joinWith (⟨_, _, hslot⟩ :: ⟨_, _, spells_inQuotes r.deviceClass⟩ ::
    ⟨_, _, spells_inQuotes r.vendor⟩ :: ⟨_, _, spells_inQuotes r.device⟩ :: r.more)

theorem line_ne_nil : r.line ≠ [] := by
  obtain ⟨u, hu⟩ := exists_joinWith_cons [' '] r.slot
    (inQuotes r.deviceClass :: inQuotes r.vendor :: inQuotes r.device ::
      r.more.map WrittenWord.text)
  rw [line, hu]
  exact List.append_ne_nil_of_left_ne_nil r.slot_ne_nil u

theorem line_oneLine : ∀ c ∈ r.line, isLineBreak c = false := by
  have hquotes : ∀ s : List Char, (∀ c ∈ s, isLineBreak c = false) →
      ∀ c ∈ inQuotes s, isLineBreak c = false := by
    intro s hs c hc
    rcases of_mem_inQuotes hc with rfl | rfl | hc
    · decide
    · decide
    · exact hs c hc
  intro c hc
  rcases of_mem_joinWith hc with hc | ⟨w, hw, hc⟩
  · rw [List.mem_singleton.1 hc]
    decide
  · simp only [List.mem_cons, List.mem_map] at hw
    rcases hw with rfl | rfl | rfl | rfl | ⟨w, hw, rfl⟩
    · exact isLineBreak_of_not_isBlank (r.slot_plain c hc).1
    · exact hquotes _ r.class_oneLine c hc
    · exact hquotes _ r.vendor_oneLine c hc
    · exact hquotes _ r.device_oneLine c hc
    · exact r.more_oneLine w hw c hc

/-- The line of a device tells its name if the device is one of graphics. -/
theorem deviceName?_line : deviceName? r.line = if r.IsGraphics then some r.name else none := by
  have hclass : (contains "VGA".toList r.deviceClass || contains "3D".toList r.deviceClass) = true ↔
      r.IsGraphics := by
    rw [Bool.or_eq_true, contains_eq_true_iff, contains_eq_true_iff, IsGraphics]
  have hname : String.ofList (collapse (r.vendor ++ ' ' :: r.device)) = r.name := by
    simp [name, collapseBlanks]
  rw [deviceName?, split_line]
  simp only [hclass, hname]

end BusRecord

/-! ## Listings -/

/-- A listing of a bus tells the names of its graphics devices and of no others, in order, whatever
blanks, quotes and backslashes their fields hold. -/
theorem ofBusListing_records {records : List BusRecord} {listing : String}
    (hlisting : IsWrittenAs listing.toList (records.map BusRecord.line)) :
    ofBusListing listing =
      (records.filter fun r => r.IsGraphics).map BusRecord.name := by
  have hlines : lines listing.toList = records.map BusRecord.line := by
    refine hlisting.lines_eq ?_ ?_
    · intro l hl
      obtain ⟨r, -, rfl⟩ := List.mem_map.1 hl
      exact r.line_oneLine
    · intro hempty
      obtain ⟨r, -, hr⟩ := List.mem_map.1 hempty
      exact r.line_ne_nil hr
  rw [ofBusListing, hlines, List.filterMap_map, ← List.filterMap_eq_map, List.filterMap_filter]
  refine List.filterMap_congr fun r _ => ?_
  rw [Function.comp_apply, r.deviceName?_line]
  by_cases hr : r.IsGraphics <;> simp [hr]

/-- A bridge, a graphics device whose fields hold quotes, a backslash and blanks in a row, and one
whose maker and name are not known. -/
def sampleRecords : List BusRecord :=
  [{ slot := "00:00.0".toList
     deviceClass := "Host bridge".toList
     vendor := "Intel Corporation".toList
     device := "440FX".toList
     more := [⟨_, _, spells_of_plain (s := "-r02".toList) (by decide) (by decide)⟩] },
   { slot := "00:02.0".toList
     deviceClass := "VGA compatible controller".toList
     vendor := "  O'Neill \"GPU\"".toList
     device := "GD\t\\5446 ".toList
     more := [⟨_, _, spells_inQuotes "Red Hat, Inc.".toList⟩] },
   { slot := "01:00.0".toList
     deviceClass := "3D controller".toList
     vendor := []
     device := [] }]

theorem ofBusListing_records_sampleRecords :
    let listing := "00:00.0 \"Host bridge\" \"Intel Corporation\" \"440FX\" -r02\n" ++
      "00:02.0 \"VGA compatible controller\" \"  O'Neill \\\"GPU\\\"\" " ++
      "\"GD\t\\\\5446 \" \"Red Hat, Inc.\"\n" ++ "01:00.0 \"3D controller\" \"\" \"\"\n"
    IsWrittenAs listing.toList (sampleRecords.map BusRecord.line) ∧
      ofBusListing listing = ["O'Neill \"GPU\" GD \\5446", ""] := by
  intro listing
  have hlisting : IsWrittenAs listing.toList (sampleRecords.map BusRecord.line) :=
    .inl (by decide +kernel)
  have hnames : (sampleRecords.filter fun r => r.IsGraphics).map BusRecord.name =
      ["O'Neill \"GPU\" GD \\5446", ""] := by decide +kernel
  exact ⟨hlisting, (ofBusListing_records hlisting).trans hnames⟩

end HostReport.Graphics
