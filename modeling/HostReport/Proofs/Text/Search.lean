import HostReport.Text.Letter
import HostReport.Text.Search
import HostReport.Proofs.Text.Run

/-!
# Words in a text

A word is found wherever it stands, and a separator cuts a text where it first stands.  The
lower-case form of a letter may depend on what stands around it, but never on what stands beyond a
character without case such as a space; so words are found whatever the case on either side of one.
-/

namespace HostReport.Text

theorem contains_eq_true_iff (w s : List Char) : contains w s = true ↔ w <:+: s := by
  induction s with
  | nil => rw [contains, List.isEmpty_iff, List.infix_nil]
  | cons c s ih =>
    rw [contains, Bool.or_eq_true, List.isPrefixOf_iff_prefix, ih, List.infix_cons_iff]

/-! ## Words with what stands behind them -/

/-- Whether a word stands somewhere in a text with a rest of some kind behind it. -/
def OccursBefore (P : List Char → Prop) (w s : List Char) : Prop := ∃ r, w ++ r <:+ s ∧ P r

section

variable {P Q : List Char → Prop} {w : List Char}

theorem occursBefore_congr (hPQ : ∀ r, P r ↔ Q r) (s : List Char) :
    OccursBefore P w s ↔ OccursBefore Q w s := by
  simp only [OccursBefore, hPQ]

theorem occursBefore_cons_iff (c : Char) (s : List Char) :
    OccursBefore P w (c :: s) ↔ (∃ r, w ++ r = c :: s ∧ P r) ∨ OccursBefore P w s := by
  simp only [OccursBefore, List.suffix_cons_iff, or_and_right, exists_or]

theorem not_occursBefore_nil (hw : w ≠ []) : ¬OccursBefore P w [] := by
  rintro ⟨r, hr, -⟩
  exact hw (List.append_eq_nil_iff.1 (List.suffix_nil.1 hr)).1

/-- A word without a character stands before it or behind it, and what is behind the character is
behind the word as well. -/
theorem occursBefore_append_cons_iff (hw : w ≠ []) {c : Char} (hc : c ∉ w) (a b : List Char) :
    OccursBefore P w (a ++ c :: b) ↔
      OccursBefore (fun r => P (r ++ c :: b)) w a ∨ OccursBefore P w b := by
  induction a with
  | nil =>
    have hfront : ¬∃ r, w ++ r = c :: b ∧ P r := by
      obtain ⟨d, w, rfl⟩ := List.exists_cons_of_ne_nil hw
      rintro ⟨r, heq, -⟩
      exact hc ((List.cons.inj heq).1 ▸ List.mem_cons_self)
    rw [List.nil_append, occursBefore_cons_iff, or_iff_right hfront,
      or_iff_right (not_occursBefore_nil hw)]
  | cons x a ih =>
    have hfront : (∃ r, w ++ r = x :: a ++ c :: b ∧ P r) ↔
        ∃ r, w ++ r = x :: a ∧ P (r ++ c :: b) := by
      constructor
      · rintro ⟨r, heq, hr⟩
        obtain ⟨r', heq'⟩ := (prefix_append_cons_iff hc (x :: a) b).1 ⟨r, heq⟩
        rw [← heq', List.append_assoc, List.append_cancel_left_eq] at heq
        exact ⟨r', heq', heq ▸ hr⟩
      · rintro ⟨r, heq, hr⟩
        exact ⟨r ++ c :: b, by rw [← List.append_assoc, heq], hr⟩
    rw [List.cons_append, occursBefore_cons_iff, ← List.cons_append, hfront, ih,
      occursBefore_cons_iff, or_assoc]

/-- A word stands before a mark that shares no character with it, or behind it. -/
theorem occursBefore_append_iff (hw : w ≠ []) {m : List Char} (hm : m ≠ [])
    (hmw : ∀ c ∈ m, c ∉ w) (a b : List Char) :
    OccursBefore P w (a ++ (m ++ b)) ↔
      OccursBefore (fun r => P (r ++ (m ++ b))) w a ∨ OccursBefore P w b := by
  have hbehind : ∀ m : List Char, (∀ c ∈ m, c ∉ w) →
      (OccursBefore P w (m ++ b) ↔ OccursBefore P w b) := by
    intro m hmw
    induction m with
    | nil => rfl
    | cons c m ih =>
      obtain ⟨hc, hmw⟩ := List.forall_mem_cons.1 hmw
      rw [List.cons_append, ← List.nil_append (c :: (m ++ b)),
        occursBefore_append_cons_iff hw hc, or_iff_right (not_occursBefore_nil hw), ih hmw]
  obtain ⟨c, m, rfl⟩ := List.exists_cons_of_ne_nil hm
  obtain ⟨hc, hmw'⟩ := List.forall_mem_cons.1 hmw
  rw [List.cons_append, occursBefore_append_cons_iff hw hc, hbehind m hmw']

/-- The part after the first occurrence of a word ends with what is after any other one. -/
theorem exists_after?_iff (hP : ∀ r r', r' <:+ r → P r' → P r) (hw : w ≠ []) (s : List Char) :
    (∃ r, after? w s = some r ∧ P r) ↔ OccursBefore P w s := by
  induction s with
  | nil =>
    refine iff_of_false ?_ (not_occursBefore_nil hw)
    rintro ⟨r, hr, -⟩
    rw [after?, if_neg (by simpa using hw)] at hr
    exact nomatch hr
  | cons c s ih =>
    rw [after?]
    by_cases hfront : w <+: c :: s
    · obtain ⟨r, heq⟩ := hfront
      have hdrop : (c :: s).drop w.length = r := by rw [← heq, List.drop_left]
      rw [if_pos (List.isPrefixOf_iff_prefix.2 ⟨r, heq⟩), hdrop]
      constructor
      · rintro ⟨r', heq', hr'⟩
        obtain rfl := Option.some.inj heq'
        exact ⟨r, heq ▸ List.suffix_refl _, hr'⟩
      · rintro ⟨r', hr', hP'⟩
        refine ⟨r, rfl, hP r r' ?_ hP'⟩
        have hlength : r'.length ≤ r.length := by
          have hshort := hr'.length_le
          rw [← heq, List.length_append, List.length_append] at hshort
          omega
        exact List.suffix_of_suffix_length_le ((List.suffix_append w r').trans hr')
          (heq ▸ List.suffix_append w r) hlength
    · have hnone : ¬∃ r, w ++ r = c :: s ∧ P r := fun ⟨r, heq, _⟩ => hfront ⟨r, heq⟩
      rw [if_neg (mt List.isPrefixOf_iff_prefix.1 hfront), ih, occursBefore_cons_iff,
        or_iff_right hnone]

end

/-! ## Separators -/

theorem cut?_eq_none_iff {sep : Char} {s : List Char} : cut? sep s = none ↔ sep ∉ s := by
  induction s with
  | nil => simp [cut?]
  | cons c s ih =>
    by_cases hc : c = sep
    · simp [cut?, hc]
    · rw [cut?, if_neg hc, Option.map_eq_none_iff, ih, List.mem_cons, not_or]
      exact (and_iff_right (Ne.symm hc)).symm

theorem cut?_append_cons {sep : Char} {u : List Char} (hu : sep ∉ u) (s : List Char) :
    cut? sep (u ++ sep :: s) = some (u, s) := by
  induction u with
  | nil => exact if_pos rfl
  | cons c u ih =>
    have hc : c ≠ sep := fun h => hu (h ▸ List.mem_cons_self)
    rw [List.cons_append, cut?, if_neg hc, ih fun h => hu (List.mem_cons_of_mem c h)]
    rfl

theorem of_cut?_eq_some {sep : Char} {s u v : List Char} (h : cut? sep s = some (u, v)) :
    s = u ++ sep :: v ∧ sep ∉ u := by
  induction s generalizing u with
  | nil => exact nomatch h
  | cons c s ih =>
    by_cases hc : c = sep
    · rw [cut?, if_pos hc] at h
      cases h
      exact ⟨by rw [hc]; rfl, List.not_mem_nil⟩
    · rw [cut?, if_neg hc, Option.map_eq_some_iff] at h
      obtain ⟨⟨u', v'⟩, hrest, heq⟩ := h
      cases heq
      obtain ⟨hs, hu⟩ := ih hrest
      refine ⟨by rw [hs]; rfl, ?_⟩
      rw [List.mem_cons, not_or]
      exact ⟨Ne.symm hc, hu⟩

/-! ## Lower case -/

/-- A character without case that keeps the texts on its two sides apart: the lower-case form of
neither depends on the other. -/
structure IsCaseBoundary (c : Char) : Prop where
  lowerAt_eq : ∀ before after, lowerAt before c after = [c]
  not_ignorable : inRanges caseIgnorableRanges c.toNat = false
  uncased : inRanges casedRanges c.toNat = false

theorem isCaseBoundary_space : IsCaseBoundary ' ' where
  lowerAt_eq _ _ := rfl
  not_ignorable := by decide +kernel
  uncased := by decide +kernel

theorem isCaseBoundary_quote : IsCaseBoundary '"' where
  lowerAt_eq _ _ := rfl
  not_ignorable := by decide +kernel
  uncased := by decide +kernel

theorem isCaseBoundary_comma : IsCaseBoundary ',' where
  lowerAt_eq _ _ := rfl
  not_ignorable := by decide +kernel
  uncased := by decide +kernel

section

variable {c : Char} (hc : IsCaseBoundary c)

include hc

theorem meetsCased_append_cons (b x : List Char) : meetsCased (b ++ c :: x) = meetsCased b := by
  have hstop : (c :: x).dropWhile (fun c => inRanges caseIgnorableRanges c.toNat) = c :: x :=
    List.dropWhile_cons_of_neg (by simp [hc.not_ignorable])
  rw [meetsCased, meetsCased, List.dropWhile_append, hstop]
  cases b.dropWhile fun c => inRanges caseIgnorableRanges c.toNat with
  | nil => exact hc.uncased
  | cons d b => rfl

theorem lowerFrom_append_cons_left (b x s : List Char) :
    lowerFrom (b ++ c :: x) s = lowerFrom b s := by
  induction s generalizing b with
  | nil => rfl
  | cons d s ih =>
    have hhere : lowerAt (b ++ c :: x) d s = lowerAt b d s := by
      rw [lowerAt, lowerAt, meetsCased_append_cons hc]
    rw [lowerFrom, lowerFrom, hhere, ← List.cons_append, ih]

theorem lowerFrom_append_cons_right (b u s : List Char) :
    lowerFrom b (u ++ c :: s) = lowerFrom b u ++ c :: lower s := by
  induction u generalizing b with
  | nil =>
    have hbehind : lowerFrom (c :: b) s = lower s := lowerFrom_append_cons_left hc [] b s
    have hhere : lowerFrom b (c :: s) = lowerAt b c s ++ lowerFrom (c :: b) s := rfl
    rw [List.nil_append, hhere, hc.lowerAt_eq, hbehind]
    rfl
  | cons d u ih =>
    have hhere : lowerAt b d (u ++ c :: s) = lowerAt b d u := by
      rw [lowerAt, lowerAt, meetsCased_append_cons hc]
    rw [List.cons_append, lowerFrom, lowerFrom, hhere, ih, List.append_assoc]

/-- Lower-casing goes through to both sides of a boundary. -/
theorem lower_append_cons (u s : List Char) : lower (u ++ c :: s) = lower u ++ c :: lower s :=
  lowerFrom_append_cons_right hc [] u s

/-- A word without the boundary stands in the lower-case form of one side or the other. -/
theorem contains_lower_append_cons {w : List Char} (hw : w ≠ []) (hcw : c ∉ w) (u s : List Char) :
    contains w (lower (u ++ c :: s)) = (contains w (lower u) || contains w (lower s)) := by
  rw [lower_append_cons hc, Bool.eq_iff_iff, Bool.or_eq_true, contains_eq_true_iff,
    contains_eq_true_iff, contains_eq_true_iff, infix_append_cons_iff hw hcw]

end

/-- The lower-case form of a text ends with that of any part behind a space. -/
theorem lower_suffix_lower (u s : List Char) : lower s <:+ lower (u ++ ' ' :: s) := by
  rw [lower_append_cons isCaseBoundary_space]
  exact (List.suffix_cons ' ' (lower s)).trans (List.suffix_append _ _)

end HostReport.Text
