import HostReport.Address.V6
import HostReport.Proofs.Text.HexDigit

/-!
# The front of a canonical address

The canonical text of an address begins with the digits of its first group and a colon, or with two
colons where the run of zero groups that is left out is the first.  It is the first exactly if two
zero groups stand there and no run behind it is longer.
-/

namespace HostReport.Ipv6

/-- How many zero groups stand at the front. -/
def leadingZeros (gs : List Nat) : Nat := (gs.takeWhile (· == 0)).length

/-- The zero groups at the front are two or more, and no run of zero groups is longer. -/
def OpensWithGap (gs : List Nat) : Prop :=
  2 ≤ leadingZeros gs ∧ ¬List.replicate (leadingZeros gs + 1) 0 <:+: gs

/-! ## Groups between colons -/

theorem joinGroups_cons_cons (g g' : Nat) (gs : List Nat) :
    joinGroups (g :: g' :: gs) = Nat.toDigits 16 g ++ ':' :: joinGroups (g' :: gs) := by
  simp [joinGroups, Text.joinWith, Text.hexDigits_one]

theorem joinGroups_singleton (g : Nat) : joinGroups [g] = Nat.toDigits 16 g := by
  simp [joinGroups, Text.joinWith, Text.hexDigits_one]

/-- Joined groups consist of lower-case digits and colons. -/
theorem forall_mem_joinGroups (gs : List Nat) :
    ∀ c ∈ joinGroups gs, Text.isLowHexOrColon c = true := by
  have hdigits (g : Nat) : ∀ c ∈ Nat.toDigits 16 g, Text.isLowHexOrColon c = true :=
    Text.forall_mem_toDigits Text.isLowHexOrColon_digitChar g
  induction gs with
  | nil =>
    intro c hc
    cases hc
  | cons g gs ih =>
    cases gs with
    | nil =>
      rw [joinGroups_singleton]
      exact hdigits g
    | cons g' gs =>
      rw [joinGroups_cons_cons]
      intro c hc
      rcases List.mem_append.1 hc with hfront | hback
      · exact hdigits g c hfront
      · rcases List.mem_cons.1 hback with rfl | hrest
        · decide
        · exact ih c hrest

/-- A canonical text consists of lower-case digits and colons. -/
theorem forall_mem_groupsText (gs : List Nat) :
    ∀ c ∈ groupsText gs, Text.isLowHexOrColon c = true := by
  intro c hc
  simp only [groupsText] at hc
  split at hc
  · exact forall_mem_joinGroups gs c hc
  · rcases List.mem_append.1 hc with hfront | hback
    · rcases List.mem_append.1 hfront with htaken | hgap
      · exact forall_mem_joinGroups _ c htaken
      · have hcolon : c = ':' := by simpa using hgap
        rw [hcolon]
        decide
    · exact forall_mem_joinGroups _ c hback

/-! ## The run that is left out -/

/-- The zero groups at the front are as many as `leadingZeros` counts. -/
theorem replicate_prefix_iff_leadingZeros (n : Nat) (gs : List Nat) :
    List.replicate n 0 <+: gs ↔ n ≤ leadingZeros gs :=
  replicate_prefix_iff n 0 gs

/-- The search keeps the run it has, and then meets no longer one, or it ends with a run that starts
later. -/
theorem longestRun_cases (i : Nat) (best : Nat × Nat) (gs : List Nat) :
    longestRun i best gs = best ∧ ¬List.replicate (best.2 + 1) 0 <:+: gs ∨
      i ≤ (longestRun i best gs).1 ∧ List.replicate (best.2 + 1) 0 <:+: gs := by
  induction gs generalizing i best with
  | nil => exact .inl ⟨rfl, by simp [List.replicate_succ]⟩
  | cons g gs ih =>
    have hfront : List.replicate (best.2 + 1) 0 <+: g :: gs ↔ best.2 < leadingZeros (g :: gs) :=
      replicate_prefix_iff_leadingZeros (best.2 + 1) (g :: gs)
    rw [List.infix_cons_iff, hfront]
    by_cases hlonger : best.2 < leadingZeros (g :: gs)
    · have hrun : longestRun i best (g :: gs) =
          longestRun (i + 1) (i, leadingZeros (g :: gs)) gs := by
        rw [leadingZeros] at hlonger
        rw [longestRun, if_pos hlonger, leadingZeros]
      have hstart : i ≤ (longestRun i best (g :: gs)).1 := by
        rw [hrun]
        rcases ih (i + 1) (i, leadingZeros (g :: gs)) with ⟨hkept, -⟩ | ⟨hlater, -⟩
        · rw [hkept]
        · omega
      exact .inr ⟨hstart, .inl hlonger⟩
    · have hrun : longestRun i best (g :: gs) = longestRun (i + 1) best gs := by
        rw [leadingZeros] at hlonger
        rw [longestRun, if_neg hlonger]
      rw [hrun, or_iff_right hlonger]
      rcases ih (i + 1) best with hkept | ⟨hlater, hlong⟩
      · exact .inl hkept
      · exact .inr ⟨by omega, hlong⟩

/-- The whole search starts with the run at the front, which may be empty. -/
theorem longestRun_zero_cons (g : Nat) (gs : List Nat) :
    longestRun 0 (0, 0) (g :: gs) = longestRun 1 (0, leadingZeros (g :: gs)) gs := by
  by_cases hzero : 0 < leadingZeros (g :: gs)
  · rw [leadingZeros] at hzero
    rw [longestRun, if_pos hzero, leadingZeros]
  · have hnone : leadingZeros (g :: gs) = 0 := by omega
    rw [hnone]
    rw [leadingZeros] at hzero
    rw [longestRun, if_neg hzero]

/-- No run of the whole list at the front is longer than the leading one, so a longer run lies
behind the first group. -/
theorem replicate_leadingZeros_infix_cons_iff (g : Nat) (gs : List Nat) :
    List.replicate (leadingZeros (g :: gs) + 1) 0 <:+: g :: gs ↔
      List.replicate (leadingZeros (g :: gs) + 1) 0 <:+: gs := by
  rw [List.infix_cons_iff, replicate_prefix_iff_leadingZeros]
  exact or_iff_right (by omega)

/-! ## How the text begins -/

/-- Where the first run is left out the text begins with the two colons. -/
theorem groupsText_of_opensWithGap {gs : List Nat} (h : OpensWithGap gs) :
    groupsText gs = ':' :: ':' :: joinGroups (gs.drop (leadingZeros gs)) := by
  obtain ⟨htwo, hlongest⟩ := h
  cases gs with
  | nil =>
    rw [leadingZeros, List.takeWhile_nil, List.length_nil] at htwo
    omega
  | cons g gs =>
    have hrun : longestRun 0 (0, 0) (g :: gs) = (0, leadingZeros (g :: gs)) := by
      rw [longestRun_zero_cons]
      rw [replicate_leadingZeros_infix_cons_iff] at hlongest
      rcases longestRun_cases 1 (0, leadingZeros (g :: gs)) gs with ⟨hkept, -⟩ | ⟨-, hlong⟩
      · exact hkept
      · exact absurd hlong hlongest
    have hgap : ¬leadingZeros (g :: gs) < 2 := by omega
    rw [groupsText, hrun]
    simp only [if_neg hgap, List.take_zero, Nat.zero_add]
    rfl

/-- Where it is not, the text begins with the digits of the first group and a colon. -/
theorem groupsText_of_not_opensWithGap {g g' : Nat} {gs : List Nat}
    (h : ¬OpensWithGap (g :: g' :: gs)) :
    ∃ tail, groupsText (g :: g' :: gs) = Nat.toDigits 16 g ++ ':' :: tail := by
  rw [groupsText, longestRun_zero_cons]
  generalize hrun : longestRun 1 (0, leadingZeros (g :: g' :: gs)) (g' :: gs) = run
  obtain ⟨start, n⟩ := run
  by_cases hn : n < 2
  · exact ⟨joinGroups (g' :: gs), by simp only [if_pos hn, joinGroups_cons_cons]⟩
  · -- A run left out that started at the front would be the gap that the hypothesis excludes.
    have hstart : 1 ≤ start := by
      rcases longestRun_cases 1 (0, leadingZeros (g :: g' :: gs)) (g' :: gs) with
        ⟨hkept, hlongest⟩ | ⟨hlater, -⟩
      · have hsame : (start, n) = (0, leadingZeros (g :: g' :: gs)) := hrun.symm.trans hkept
        have htwo : 2 ≤ leadingZeros (g :: g' :: gs) := by
          rw [← (Prod.mk.inj hsame).2]
          omega
        rw [← replicate_leadingZeros_infix_cons_iff] at hlongest
        exact absurd ⟨htwo, hlongest⟩ h
      · rw [hrun] at hlater
        exact hlater
    obtain ⟨start, rfl⟩ := Nat.exists_eq_add_of_le' hstart
    simp only [if_neg hn, List.take_succ_cons]
    cases hfront : (g' :: gs).take start with
    | nil =>
      rw [joinGroups_singleton]
      exact ⟨_, List.append_assoc (Nat.toDigits 16 g) [':', ':'] _⟩
    | cons g'' front =>
      rw [joinGroups_cons_cons]
      exact ⟨_, by rw [List.append_assoc, List.append_assoc, List.cons_append]⟩

/-- In front of a gap stands nothing: the first group is zero. -/
theorem OpensWithGap.head_eq_zero {g : Nat} {gs : List Nat} (h : OpensWithGap (g :: gs)) :
    g = 0 := by
  have htwo : List.replicate 2 0 <+: g :: gs := (replicate_prefix_iff_leadingZeros 2 _).2 h.1
  exact (List.cons_prefix_cons.1 htwo).1.symm

end HostReport.Ipv6
