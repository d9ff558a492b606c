import HostReport.Text.Blank
import HostReport.Text.Line
import Mathlib.Data.List.Basic

/-!
# Lines of a text

A text that is written line by line has the lines that it was written from.  Behind a line feed a
text is read as if nothing stood before it (`lines_append`).
-/

namespace HostReport.Text

variable {l s : List Char} {ls : List (List Char)}

/-- The text with these lines, each ended by a line feed. -/
def unlines (ls : List (List Char)) : List Char := ls.flatMap (· ++ ['\n'])

/-- Whether a text consists of these lines, of which the last may lack its line feed. -/
def IsWrittenAs (s : List Char) (ls : List (List Char)) : Prop :=
  s = unlines ls ∨ s ++ ['\n'] = unlines ls

theorem unlines_cons (l : List Char) (ls : List (List Char)) :
    unlines (l :: ls) = l ++ '\n' :: unlines ls := by
  rw [unlines, List.flatMap_cons, List.append_assoc]
  rfl

theorem unlines_append (ls ls' : List (List Char)) :
    unlines (ls ++ ls') = unlines ls ++ unlines ls' :=
  List.flatMap_append

theorem lines_cons_of_not_isLineBreak {c : Char} (hc : isLineBreak c = false) (s : List Char) :
    lines (c :: s) = (lines s).head?.elim [c] (c :: ·) :: (lines s).tail := by
  have hreturn : c ≠ '\r' := by
    rintro rfl
    exact absurd hc (by decide)
  rw [lines.eq_3 c s fun r hr _ => hreturn hr, hc]
  cases lines s with
  | nil => rfl
  | cons l ls => rfl

theorem lines_append_newline (hl : ∀ c ∈ l, isLineBreak c = false) (s : List Char) :
    lines (l ++ '\n' :: s) = l :: lines s := by
  induction l with
  | nil =>
    rw [List.nil_append, lines.eq_3 '\n' s fun r hr _ => absurd hr (by decide)]
    rfl
  | cons c l ih =>
    obtain ⟨hc, hl⟩ := List.forall_mem_cons.1 hl
    rw [List.cons_append, lines_cons_of_not_isLineBreak hc, ih hl]
    rfl

theorem lines_eq_singleton (hl : ∀ c ∈ l, isLineBreak c = false) (hne : l ≠ []) :
    lines l = [l] := by
  induction l with
  | nil => exact absurd rfl hne
  | cons c l ih =>
    obtain ⟨hc, hl⟩ := List.forall_mem_cons.1 hl
    rw [lines_cons_of_not_isLineBreak hc]
    cases l with
    | nil => rfl
    | cons d l =>
      rw [ih hl (List.cons_ne_nil d l)]
      rfl

theorem lines_unlines_append (hls : ∀ l ∈ ls, ∀ c ∈ l, isLineBreak c = false) (s : List Char) :
    lines (unlines ls ++ s) = ls ++ lines s := by
  induction ls with
  | nil => rfl
  | cons l ls ih =>
    obtain ⟨hl, hls⟩ := List.forall_mem_cons.1 hls
    rw [unlines_cons, List.append_assoc, List.cons_append, lines_append_newline hl, ih hls]
    rfl

theorem isLineBreak_of_not_isBlank {c : Char} (hc : isBlank c = false) : isLineBreak c = false := by
  simp only [isBlank, Bool.or_eq_false_iff, Bool.and_eq_false_iff, decide_eq_false_iff_not,
    beq_eq_false_iff_ne] at hc
  simp only [isLineBreak, Bool.or_eq_false_iff, Bool.and_eq_false_iff, decide_eq_false_iff_not,
    beq_eq_false_iff_ne]
  omega

/-- The lines of a text are those that it was written from, if none of them is empty. -/
theorem IsWrittenAs.lines_eq (hs : IsWrittenAs s ls)
    (hls : ∀ l ∈ ls, ∀ c ∈ l, isLineBreak c = false) (hne : [] ∉ ls) : lines s = ls := by
  rcases hs with rfl | hs
  · have hall := lines_unlines_append hls []
    rwa [List.append_nil, lines, List.append_nil] at hall
  · rcases List.eq_nil_or_concat ls with rfl | ⟨ls, l, rfl⟩
    · exact absurd hs (List.append_ne_nil_of_right_ne_nil s (List.cons_ne_nil _ _))
    · rw [List.concat_eq_append] at hs hls hne ⊢
      rw [unlines_append, unlines_cons] at hs
      have hlast : s = unlines ls ++ l :=
        List.append_cancel_right (hs.trans (List.append_assoc _ _ _).symm)
      have hl : l ∈ ls ++ [l] := List.mem_append_right ls List.mem_cons_self
      rw [hlast, lines_unlines_append fun l' hl' => hls l' (List.mem_append_left _ hl'),
        lines_eq_singleton (hls l hl) fun h => hne (h ▸ hl)]

/-! ## Texts one behind the other -/

/-- Whether a text is empty or ends with a line feed. -/
def EndsLine (s : List Char) : Prop := ∀ c ∈ s.getLast?, c = '\n'

instance : DecidablePred EndsLine := fun s => Option.decidableForallMem s.getLast?

theorem EndsLine.of_cons {c : Char} (hs : EndsLine (c :: s)) : EndsLine s := by
  intro d hd
  refine hs d ?_
  rw [List.getLast?_cons, Option.mem_def.1 hd]
  rfl

theorem lines_ne_nil (hs : s ≠ []) : lines s ≠ [] := by
  fun_cases lines s with
  | case1 => exact absurd rfl hs
  | _ => exact List.cons_ne_nil _ _

/-- The lines of two texts one behind the other are those of both, if the first one ends its
line. -/
theorem lines_append (hs : EndsLine s) (t : List Char) : lines (s ++ t) = lines s ++ lines t := by
  induction s using lines.induct with
  | case1 => rfl
  | case2 r ih =>
    rw [List.cons_append, List.cons_append, lines, lines, ih hs.of_cons.of_cons]
    rfl
  | case3 c r hpair hbreak ih =>
    -- The break does not grow into a pair at the seam: a text that ends with it ends its line.
    have hseam : ∀ r', c = '\r' → r ++ t = '\n' :: r' → False := by
      intro r' hc hr
      cases r with
      | nil => exact absurd (hc ▸ hs c rfl) (by decide)
      | cons d r => exact hpair r hc (by rw [(List.cons.inj hr).1])
    rw [List.cons_append, lines.eq_3 c _ hseam, lines.eq_3 c _ hpair, if_pos hbreak, if_pos hbreak,
      ih hs.of_cons]
    rfl
  | case4 c r _ hbreak hempty _ =>
    have hr : r = [] := by
      by_contra hne
      exact lines_ne_nil hne hempty
    rw [hr] at hs
    exact absurd (hs c rfl ▸ rfl) hbreak
  | case5 c r _ hbreak l ls hlines ih =>
    have hc : isLineBreak c = false := Bool.eq_false_iff.2 hbreak
    rw [List.cons_append, lines_cons_of_not_isLineBreak hc, lines_cons_of_not_isLineBreak hc,
      ih hs.of_cons, hlines]
    rfl

end HostReport.Text
