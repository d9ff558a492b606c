import HostReport.Proofs.Text.Blank
import Mathlib.Data.List.Basic

/-!
# Pieces of a text

A text is cut into pieces at separators, and pieces are joined with a separator between neighbours.
Each undoes the other: cutting at one character loses nothing, and pieces that hold no separator are
found again.  Words are the pieces between blanks, so words joined by single spaces are read back.
-/

namespace HostReport.Text

variable {p : Char → Bool} {c : Char} {s : List Char} {ws : List (List Char)}

theorem joinWith_cons_of_ne_nil (sep w : List Char) (hne : ws ≠ []) :
    joinWith sep (w :: ws) = w ++ sep ++ joinWith sep ws := by
  obtain ⟨w', ws, rfl⟩ := List.exists_cons_of_ne_nil hne
  rfl

theorem mem_joinWith {sep w : List Char} {d : Char} (hw : w ∈ ws) (hd : d ∈ w) :
    d ∈ joinWith sep ws := by
  induction ws with
  | nil => exact absurd hw List.not_mem_nil
  | cons w' ws ih =>
    by_cases hlast : ws = []
    · rw [hlast] at hw ⊢
      rw [List.mem_singleton.1 hw] at hd
      exact hd
    · rw [joinWith_cons_of_ne_nil sep w' hlast]
      rcases List.mem_cons.1 hw with rfl | hw
      · exact List.mem_append_left _ (List.mem_append_left _ hd)
      · exact List.mem_append_right _ (ih hw)

theorem of_mem_joinWith {sep : List Char} {d : Char} (hd : d ∈ joinWith sep ws) :
    d ∈ sep ∨ ∃ w ∈ ws, d ∈ w := by
  induction ws with
  | nil => exact absurd hd List.not_mem_nil
  | cons w ws ih =>
    by_cases hlast : ws = []
    · rw [hlast] at hd
      exact .inr ⟨w, List.mem_cons_self, hd⟩
    · rw [joinWith_cons_of_ne_nil sep w hlast, List.mem_append, List.mem_append] at hd
      rcases hd with (hd | hd) | hd
      · exact .inr ⟨w, List.mem_cons_self, hd⟩
      · exact .inl hd
      · exact (ih hd).imp_right fun ⟨w', hw', hd⟩ => ⟨w', List.mem_cons_of_mem w hw', hd⟩

/-- Pieces that hold no separator are found again. -/
theorem splitOnP_joinWith (hc : p c = true) (hne : ws ≠ [])
    (hws : ∀ w ∈ ws, ∀ d ∈ w, p d = false) : (joinWith [c] ws).splitOnP p = ws := by
  induction ws with
  | nil => exact absurd rfl hne
  | cons w ws ih =>
    obtain ⟨hw, hws⟩ := List.forall_mem_cons.1 hws
    by_cases hlast : ws = []
    · rw [hlast]
      exact List.splitOnP_eq_singleton hw
    · rw [joinWith_cons_of_ne_nil [c] w hlast, List.append_assoc, List.singleton_append,
        List.splitOnP_append_cons w _ hc, List.splitOnP_eq_singleton hw, ih hlast hws]
      rfl

/-- The first piece ends at the first separator. -/
theorem splitOnP_append_cons_of_not_mem {w : List Char} (hw : c ∉ w) (s : List Char) :
    (w ++ c :: s).splitOnP (· == c) = w :: s.splitOnP (· == c) := by
  have hpiece : w.splitOnP (· == c) = [w] := by
    refine List.splitOnP_eq_singleton fun d hd => ?_
    have hne : d ≠ c := fun h => hw (h ▸ hd)
    simpa using hne
  rw [List.splitOnP_append_cons w s (by simp), hpiece]
  rfl

/-- Cutting at one character loses nothing. -/
theorem joinWith_splitOnP (c : Char) (s : List Char) :
    joinWith [c] (s.splitOnP (· == c)) = s := by
  induction s with
  | nil => rfl
  | cons d s ih =>
    obtain ⟨w, ws, hsplit⟩ := List.exists_cons_of_ne_nil (List.splitOnP_ne_nil (· == c) s)
    rw [hsplit] at ih
    rw [List.splitOnP_cons_eq_if_modifyHead, hsplit]
    by_cases hd : d = c
    · rw [if_pos (by simpa using hd), joinWith_cons_of_ne_nil _ _ (List.cons_ne_nil w ws), ih, hd]
      rfl
    · rw [if_neg (by simpa using hd), List.modifyHead_cons, ← ih]
      by_cases hlast : ws = []
      · rw [hlast]
        rfl
      · rw [joinWith_cons_of_ne_nil _ _ hlast, joinWith_cons_of_ne_nil _ _ hlast]
        rfl

/-! ## Words -/

/-- Words with single spaces between them. -/
def IsSpaced (s : List Char) : Prop :=
  ∃ ws ≠ [], (∀ w ∈ ws, w ≠ [] ∧ ∀ c ∈ w, isBlank c = false) ∧ s = joinWith [' '] ws

/-- Words joined by single spaces are read back. -/
theorem words_joinWith (hws : ∀ w ∈ ws, w ≠ [] ∧ ∀ c ∈ w, isBlank c = false) :
    words (joinWith [' '] ws) = ws := by
  by_cases hne : ws = []
  · rw [hne]
    rfl
  · have hblank : isBlank ' ' = true := by decide
    rw [words, splitOnP_joinWith hblank hne fun w hw => (hws w hw).2, List.filter_eq_self]
    exact fun w hw => by simpa using (hws w hw).1

theorem words_append_cons {w : List Char} (hne : w ≠ []) (hw : ∀ c ∈ w, isBlank c = false)
    (s : List Char) : words (w ++ ' ' :: s) = w :: words s := by
  have hblank : isBlank ' ' = true := by decide
  rw [words, List.splitOnP_append_cons w s hblank, List.splitOnP_eq_singleton hw,
    List.singleton_append, List.filter_cons_of_pos (by simpa using hne)]
  rfl

theorem exists_joinWith_cons (sep w : List Char) (ws : List (List Char)) :
    ∃ u, joinWith sep (w :: ws) = w ++ u := by
  by_cases hlast : ws = []
  · exact ⟨[], by rw [hlast, List.append_nil]; rfl⟩
  · exact ⟨_, by rw [joinWith_cons_of_ne_nil sep w hlast, List.append_assoc]⟩

theorem exists_joinWith_concat (sep : List Char) (ws : List (List Char)) (w : List Char) :
    ∃ u, joinWith sep (ws ++ [w]) = u ++ w := by
  induction ws with
  | nil => exact ⟨[], rfl⟩
  | cons w' ws ih =>
    obtain ⟨u, hu⟩ := ih
    refine ⟨w' ++ sep ++ u, ?_⟩
    rw [List.cons_append, joinWith_cons_of_ne_nil sep w' (List.concat_ne_nil w ws), hu,
      List.append_assoc (w' ++ sep)]

theorem IsSpaced.cons {w s : List Char} (hne : w ≠ []) (hw : ∀ c ∈ w, isBlank c = false)
    (hs : IsSpaced s) : IsSpaced (w ++ ' ' :: s) := by
  obtain ⟨ws, hne', hws, rfl⟩ := hs
  refine ⟨w :: ws, List.cons_ne_nil w ws, List.forall_mem_cons.2 ⟨⟨hne, hw⟩, hws⟩, ?_⟩
  rw [joinWith_cons_of_ne_nil [' '] w hne', List.append_assoc, List.singleton_append]

theorem IsSpaced.ne_nil {s : List Char} (hs : IsSpaced s) : s ≠ [] := by
  obtain ⟨ws, hne, hws, rfl⟩ := hs
  obtain ⟨w, ws, rfl⟩ := List.exists_cons_of_ne_nil hne
  obtain ⟨u, hu⟩ := exists_joinWith_cons [' '] w ws
  rw [hu]
  exact List.append_ne_nil_of_left_ne_nil (hws w List.mem_cons_self).1 u

/-- Words with single spaces between them have no blank at either end. -/
theorem IsSpaced.strip_eq {s : List Char} (hs : IsSpaced s) : strip s = s := by
  obtain ⟨ws, hne, hws, rfl⟩ := hs
  refine trim_eq_self ?_ ?_
  · obtain ⟨w, ws, rfl⟩ := List.exists_cons_of_ne_nil hne
    obtain ⟨hw, hblank⟩ := hws w List.mem_cons_self
    obtain ⟨u, hu⟩ := exists_joinWith_cons [' '] w ws
    rw [hu, List.head?_append_of_ne_nil w hw]
    exact fun c hc => hblank c (List.mem_of_mem_head? hc)
  · obtain ⟨ws, w, rfl⟩ := (List.eq_nil_or_concat ws).resolve_left hne
    rw [List.concat_eq_append] at hws ⊢
    obtain ⟨hw, hblank⟩ := hws w (by simp)
    obtain ⟨u, hu⟩ := exists_joinWith_concat [' '] ws w
    rw [hu, List.getLast?_append_of_ne_nil u hw]
    exact fun c hc => hblank c (List.mem_of_getLast? hc)

theorem IsSpaced.joinWith_words {s : List Char} (hs : IsSpaced s) :
    joinWith [' '] (words s) = s := by
  obtain ⟨ws, -, hws, rfl⟩ := hs
  rw [words_joinWith hws]

end HostReport.Text
