import HostReport.Report.Complete
import HostReport.Proofs.Text.Run

/-!
# Line ends in a row

Two line ends in a row are written as one, in one pass from left to right.  A pass leaves a blank
line exactly where there were three line ends in a row: of these it merges two and comes to the
third when the merged one is written already.
-/

namespace HostReport

open List (replicate)

/-- A text with two line ends in a row shows a blank line. -/
def HasBlankLine (s : List Char) : Prop := replicate 2 '\n' <:+: s

instance : DecidablePred HasBlankLine := fun s => List.decidableInfix (replicate 2 '\n') s

/-- The characters of a text after the pass. -/
def merged (s : List Char) : List Char := Text.replace ['\n', '\n'] ['\n'] s

/-! ## The pass, case by case -/

theorem merged_nil : merged [] = [] := rfl

theorem merged_cons_of_ne {c : Char} (hc : c ≠ '\n') (s : List Char) :
    merged (c :: s) = c :: merged s := by
  have hnone : ['\n', '\n'].isPrefixOf (c :: s) = false := by
    simp [List.isPrefixOf, hc.symm]
  rw [merged, Text.replace, Text.replaceFrom, hnone]
  rfl

theorem merged_newline : merged ['\n'] = ['\n'] := by decide

theorem merged_newline_cons_of_ne {c : Char} (hc : c ≠ '\n') (s : List Char) :
    merged ('\n' :: c :: s) = '\n' :: c :: merged s := by
  have hnone : ['\n', '\n'].isPrefixOf ('\n' :: c :: s) = false := by
    simp [List.isPrefixOf, hc.symm]
  rw [← merged_cons_of_ne hc, merged, Text.replace, Text.replaceFrom, hnone]
  rfl

theorem merged_two_newlines (s : List Char) : merged ('\n' :: '\n' :: s) = '\n' :: merged s := rfl

/-- The pass never takes the first character away. -/
theorem newline_prefix_merged_iff (s : List Char) : ['\n'] <+: merged s ↔ ['\n'] <+: s := by
  match s with
  | [] => rw [merged_nil]
  | c :: s =>
    by_cases hc : c = '\n'
    · subst hc
      have hfront : ['\n'] <+: '\n' :: s := ⟨s, rfl⟩
      refine iff_of_true ?_ hfront
      match s with
      | [] => rw [merged_newline]
      | d :: s =>
        by_cases hd : d = '\n'
        · rw [hd, merged_two_newlines]
          exact ⟨merged s, rfl⟩
        · rw [merged_newline_cons_of_ne hd]
          exact ⟨d :: merged s, rfl⟩
    · rw [merged_cons_of_ne hc, List.cons_prefix_cons, List.cons_prefix_cons]
      exact iff_of_false (fun h => hc h.1.symm) fun h => hc h.1.symm

/-! ## What a pass leaves -/

/-- A run of line ends in front is as long as the one behind its first line end and that one. -/
theorem replicate_succ_infix_newline_cons_iff (n : Nat) (s : List Char) :
    replicate (n + 1) '\n' <:+: '\n' :: s ↔
      replicate n '\n' <+: s ∨ replicate (n + 1) '\n' <:+: s := by
  rw [List.infix_cons_iff, List.replicate_succ, List.cons_prefix_cons, and_iff_right rfl]

/-- A single line end belongs to no longer run. -/
theorem replicate_infix_newline_cons_iff_of_ne {n : Nat} (hn : 2 ≤ n) {c : Char} (hc : c ≠ '\n')
    (s : List Char) : replicate n '\n' <:+: '\n' :: c :: s ↔ replicate n '\n' <:+: s := by
  obtain ⟨n, rfl⟩ := Nat.exists_eq_add_of_le' hn
  have hfront : ¬replicate (n + 1) '\n' <+: c :: s := by
    rw [List.replicate_succ, List.cons_prefix_cons]
    exact fun h => hc h.1.symm
  rw [replicate_succ_infix_newline_cons_iff, or_iff_right hfront,
    replicate_infix_cons_iff_of_ne (by omega) hc]

/-- A pass leaves a blank line exactly where there were three line ends in a row. -/
theorem hasBlankLine_merged_iff (s : List Char) :
    HasBlankLine (merged s) ↔ replicate 3 '\n' <:+: s := by
  -- The pass takes one or two characters at a time, so the induction is on the length.
  induction hn : s.length using Nat.strongRecOn generalizing s with
  | ind n ih =>
    subst hn
    unfold HasBlankLine at ih ⊢
    match s with
    | [] => simp [merged_nil, List.replicate_succ]
    | c :: s =>
      by_cases hc : c = '\n'
      · subst hc
        match s with
        | [] => decide
        | d :: s =>
          have hrest := ih s.length (Nat.lt_add_of_pos_right (by decide : 0 < 2)) s rfl
          by_cases hd : d = '\n'
          · subst hd
            have hone : replicate 1 '\n' <+: merged s ↔ replicate 1 '\n' <+: s :=
              newline_prefix_merged_iff s
            have htwo : replicate 2 '\n' <+: '\n' :: s ↔ replicate 1 '\n' <+: s := by
              rw [List.replicate_succ, List.cons_prefix_cons, and_iff_right rfl]
            have hthree : replicate 2 '\n' <+: s → replicate 1 '\n' <+: s :=
              fun h => (List.prefix_append ['\n'] ['\n']).trans h
            rw [merged_two_newlines, replicate_succ_infix_newline_cons_iff, hone, hrest,
              replicate_succ_infix_newline_cons_iff, replicate_succ_infix_newline_cons_iff,
              htwo, ← or_assoc, or_iff_left_of_imp hthree]
          · rw [merged_newline_cons_of_ne hd,
              replicate_infix_newline_cons_iff_of_ne (by decide) hd,
              replicate_infix_newline_cons_iff_of_ne (by decide) hd]
            exact hrest
      · rw [merged_cons_of_ne hc, replicate_infix_cons_iff_of_ne (by decide) hc,
          replicate_infix_cons_iff_of_ne (by decide) hc]
        exact ih s.length (by simp) s rfl

end HostReport
