import HostReport.Proofs.Report.Lines
import HostReport.Proofs.Text.LineEnds

/-!
# Blank lines in a report

The lines of a report are put together and passed over once.  No label holds a line end and every
line begins with a space, so a run of line ends lies within one value and the end of its line.  A
blank line is left exactly where a value holds three line ends in a row or ends with two.
-/

namespace HostReport

open List (replicate)

/-- A value whose line still shows a blank line after a pass. -/
def LeavesBlankLine (value : String) : Prop :=
  replicate 3 '\n' <:+: value.toList ∨ replicate 2 '\n' <:+ value.toList

instance : DecidablePred LeavesBlankLine := fun _ => inferInstanceAs (Decidable (_ ∨ _))

/-! ## Lines -/

theorem Label.newline_not_mem_text (l : Label) (language : Language) :
    '\n' ∉ (l.text language).toList := by
  cases language <;> cases l <;> decide

theorem Label.newline_not_mem_head (l : Label) (language : Language) :
    '\n' ∉ (l.head language).toList := by
  simp [head, l.newline_not_mem_text language]

/-- A line begins with a space and ends with a line end, its value before that. -/
theorem Label.toList_line (l : Label) (value : String) (language : Language) :
    (l.line value language).toList =
      (l.head language).toList ++ (value.toList ++ ['\n']) := by
  simp [line]

theorem Label.exists_line_eq (l : Label) (value : String) (language : Language) :
    ∃ cs, (l.line value language).toList = ' ' :: cs := by
  rw [toList_line, head]
  simp only [String.toList_append, List.append_assoc]
  exact ⟨_, rfl⟩

theorem linesText_cons (l : Label × String) (ls : List (Label × String)) (language : Language) :
    linesText (l :: ls) language = l.1.line l.2 language ++ linesText ls language := by
  rw [← linesText_singleton language l, ← linesText_append, List.singleton_append]

/-- What follows a line does not begin with a line end. -/
theorem replicate_infix_append_linesText_iff (a : List Char) (ls : List (Label × String))
    (language : Language) :
    replicate 3 '\n' <:+: a ++ (linesText ls language).toList ↔
      replicate 3 '\n' <:+: a ∨ replicate 3 '\n' <:+: (linesText ls language).toList := by
  have hspace : ' ' ≠ '\n' := by decide
  cases ls with
  | nil =>
    rw [linesText_nil, show ("" : String).toList = [] from rfl, List.append_nil]
    exact (or_iff_left (by decide)).symm
  | cons l ls =>
    obtain ⟨cs, hcs⟩ := l.1.exists_line_eq l.2 language
    rw [linesText_cons, String.toList_append, hcs, List.cons_append,
      replicate_infix_append_cons_iff (by decide) hspace,
      replicate_infix_cons_iff_of_ne (by decide) hspace]

/-- Three line ends in a row stand in the value of a line or at its end. -/
theorem replicate_infix_line_iff (l : Label) (value : String) (language : Language) :
    replicate 3 '\n' <:+: (l.line value language).toList ↔ LeavesBlankLine value := by
  rw [l.toList_line, replicate_infix_append_iff_of_not_mem (by decide)
    (l.newline_not_mem_head language), replicate_succ_infix_concat_iff, or_comm, LeavesBlankLine]

/-- Three line ends in a row among lines stand in one of them. -/
theorem replicate_infix_linesText_iff (ls : List (Label × String)) (language : Language) :
    replicate 3 '\n' <:+: (linesText ls language).toList ↔ ∃ l ∈ ls, LeavesBlankLine l.2 := by
  induction ls with
  | nil =>
    rw [linesText_nil]
    exact iff_of_false (by decide) (by simp)
  | cons l ls ih =>
    rw [linesText_cons, String.toList_append, replicate_infix_append_linesText_iff,
      replicate_infix_line_iff, ih, List.exists_mem_cons_iff]

/-! ## The report -/

/-- A pass over lines leaves a blank line exactly where one of them has one. -/
theorem hasBlankLine_mergeLineEnds_iff (ls : List (Label × String)) (language : Language) :
    HasBlankLine (mergeLineEnds (linesText ls language)).toList ↔
      ∃ l ∈ ls, LeavesBlankLine l.2 := by
  rw [mergeLineEnds, String.toList_ofList, ← merged, hasBlankLine_merged_iff,
    replicate_infix_linesText_iff]

/-- A report shows a blank line exactly if one of the values that it is made of holds three line
ends in a row or ends with two.  The values are those of the facts that were collected and of the
network part over the families that were reached. -/
theorem hasBlankLine_report_iff {settings : Settings} {h : Host} {j : Journal} {text : String}
    (hreport : ((buildReport settings).runFrom h j).1 = .ok text) :
    ∃ p info block, (Platform.select.runFrom h j).1 = .ok p ∧
      ((reachedReport p settings (h.stack settings)).runFrom h (h.probed settings j)).1 =
        .ok (linesText block settings.language) ∧
      ((p.collectAll settings (h.stack settings ≠ .offline)).runFrom h
        ((reachedReport p settings (h.stack settings)).runFrom h (h.probed settings j)).2).1 =
          .ok info ∧
      text =
        mergeLineEnds (linesText (info.lines settings.language ++ block) settings.language) ∧
      (HasBlankLine text.toList ↔
        ∃ l ∈ info.lines settings.language ++ block, LeavesBlankLine l.2) := by
  obtain ⟨p, info, block, hp, hnetwork, hinfo, -, rfl⟩ := exists_lines_of_buildReport hreport
  exact ⟨p, info, block, hp, hnetwork, hinfo, rfl, hasBlankLine_mergeLineEnds_iff _ _⟩

/-- A host whose kernel release is followed by two empty lines and a word. -/
def spacedKernel : Host where
  commands := [("uname -r", [.exited 0 "6.1\n\n\nx" ""])]

/-- The report on this host is given, and it shows a blank line. -/
theorem exists_report_spacedKernel :
    ∃ text, ((buildReport {}).runFrom spacedKernel {}).1 = .ok text ∧ HasBlankLine text.toList := by
  have hgiven : ((buildReport {}).runFrom spacedKernel {}).1.toOption.isSome = true := by
    decide +kernel
  obtain ⟨text, hreport⟩ := HostM.exists_ok_of_isSome hgiven
  obtain ⟨p, info, block, hp, -, hinfo, -, htext⟩ := exists_lines_of_buildReport hreport
  obtain rfl : Platform.linux = p := Except.ok.inj hp
  have hkernel : LeavesBlankLine info.kernel := by
    have hcollected : ((Platform.linux.collectAll {} (spacedKernel.stack {} ≠ .offline)).runFrom
        spacedKernel ((reachedReport .linux {} (spacedKernel.stack {})).runFrom spacedKernel
          (spacedKernel.probed {} {})).2).1.toOption.any (LeavesBlankLine ·.kernel) = true := by
      decide +kernel
    rw [hinfo] at hcollected
    exact of_decide_eq_true hcollected
  have hshown : info.shown .chinese .kernel = some info.kernel := by
    have hne : info.kernel.isEmpty = false := by
      rw [Bool.eq_false_iff]
      intro hempty
      rw [String.isEmpty_iff.1 hempty] at hkernel
      exact absurd hkernel (by decide)
    rw [SystemInfo.shown, SystemInfo.shown.known, hne]
    rfl
  refine ⟨text, hreport, ?_⟩
  rw [htext, hasBlankLine_mergeLineEnds_iff]
  exact ⟨_, List.mem_append_left block (SystemInfo.mem_lines_iff.2 hshown), hkernel⟩

/-- One of the values that the report on this host is made of leaves the blank line. -/
theorem hasBlankLine_report_iff_spacedKernel :
    ∃ text, ((buildReport {}).runFrom spacedKernel {}).1 = .ok text ∧
      ∃ (info : SystemInfo) (block : List (Label × String)),
        ∃ l ∈ info.lines .chinese ++ block, LeavesBlankLine l.2 := by
  obtain ⟨text, hreport, hblank⟩ := exists_report_spacedKernel
  obtain ⟨p, info, block, -, -, -, -, hiff⟩ := hasBlankLine_report_iff hreport
  exact ⟨text, hreport, info, block, hiff.1 hblank⟩

/-- Blank lines are not always collapsed. -/
theorem not_blankLines_collapsed :
    ¬∀ (settings : Settings) (h : Host) (j : Journal) (text : String),
      ((buildReport settings).runFrom h j).1 = .ok text → ¬HasBlankLine text.toList := by
  intro hnone
  obtain ⟨text, hreport, hblank⟩ := exists_report_spacedKernel
  exact hnone {} spacedKernel {} text hreport hblank

end HostReport
