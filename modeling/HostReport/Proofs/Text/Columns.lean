import HostReport.Text.Columns
import HostReport.Text.Line

/-!
# Columns of plain texts

In a text of printable ASCII characters and ideographs no character changes the columns of another
one: the former take one column each and the latter two.  This is all that the layout of a report
needs of a measure of texts (`MeasuresPlain`), and `columns` is such a measure.
-/

namespace HostReport.Text

/-- An ideograph of the unified block. -/
def isIdeograph (c : Char) : Bool := 0x4e00 ≤ c.toNat && c.toNat ≤ 0x9fff

/-- A printable ASCII character or an ideograph. -/
def isPlain (c : Char) : Bool := (32 ≤ c.toNat && c.toNat < 127) || isIdeograph c

variable {c : Char}

theorem isPlain_of_mem_replicate_space (n : Nat) :
    ∀ c ∈ List.replicate n ' ', isPlain c = true := by
  intro c hc
  rw [List.eq_of_mem_replicate hc]
  decide

theorem isLineBreak_of_isPlain (hc : isPlain c = true) : isLineBreak c = false := by
  simp only [isPlain, isIdeograph, Bool.or_eq_true, Bool.and_eq_true, decide_eq_true_eq] at hc
  simp only [isLineBreak, Bool.or_eq_false_iff, Bool.and_eq_false_iff, decide_eq_false_iff_not,
    beq_eq_false_iff_ne]
  omega

theorem inRanges_eq_true_iff {ranges : List (Nat × Nat)} {n : Nat} :
    inRanges ranges n = true ↔ ∃ r ∈ ranges, r.1 ≤ n ∧ n ≤ r.2 := by
  simp only [inRanges, List.any_eq_true, Bool.and_eq_true, decide_eq_true_eq]

theorem charColumns_of_isIdeograph (hc : isIdeograph c = true) : charColumns c = 2 := by
  rw [isIdeograph, Bool.and_eq_true, decide_eq_true_eq, decide_eq_true_eq] at hc
  have hnarrow : ¬(32 ≤ c.toNat && c.toNat < 127) = true := by
    rw [Bool.and_eq_true, decide_eq_true_eq, decide_eq_true_eq]
    omega
  have hzero : ¬inRanges zeroWidthRanges c.toNat = true := by
    have hbeside : ∀ r ∈ zeroWidthRanges, r.2 < 0x4e00 ∨ 0x9fff < r.1 := by
      decide +kernel
    rw [inRanges_eq_true_iff]
    rintro ⟨r, hr, hlow, hhigh⟩
    have hr := hbeside r hr
    omega
  have hwide : inRanges wideRanges c.toNat = true := by
    have hr : (0x3250, 0xa48c) ∈ wideRanges := by decide
    exact inRanges_eq_true_iff.2 ⟨_, hr, by omega, by omega⟩
  rw [charColumns, if_neg hnarrow, if_neg hzero, if_pos hwide]

theorem charColumns_of_isPlain (hc : isPlain c = true) :
    charColumns c = if isIdeograph c then 2 else 1 := by
  split
  · next hideograph => exact charColumns_of_isIdeograph hideograph
  · next hideograph =>
    rw [isPlain, Bool.eq_false_iff.2 hideograph, Bool.or_false] at hc
    exact if_pos hc

/-- Whether a measure gives one column to a printable ASCII character and two to an ideograph,
wherever they stand in a text of such characters. -/
def MeasuresPlain (measure : List Char → Nat) : Prop :=
  ∀ s, (∀ c ∈ s, isPlain c = true) → measure s = s.length + s.countP isIdeograph

/-- A plain text takes a column for each of its characters and one more for each ideograph. -/
theorem measuresPlain_columns : MeasuresPlain columns := by
  intro s hs
  have hall : ∀ last, columnsFrom last s = s.length + s.countP isIdeograph := by
    induction s with
    | nil => exact fun _ => rfl
    | cons c s ih =>
      obtain ⟨hc, hs⟩ := List.forall_mem_cons.1 hs
      have hjoiner : c ≠ joiner := fun h => absurd (h ▸ hc) (by decide)
      have hselector : c ≠ colourSelector := fun h => absurd (h ▸ hc) (by decide)
      intro last
      rw [columnsFrom.eq_def]
      dsimp only
      rw [if_neg hjoiner, if_neg hselector, ih hs, charColumns_of_isPlain hc, List.length_cons,
        List.countP_cons]
      split <;> omega
  exact hall none

end HostReport.Text
