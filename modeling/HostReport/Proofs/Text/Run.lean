import Mathlib.Data.List.Infix

/-!
# Runs

A run is one value several times in a row.  A value of another kind cuts a list in two: a run lies
wholly before it or wholly behind it.  Line ends in a row and groups of zeros in a row are found by
this alone.
-/

namespace HostReport

variable {α : Type}

/-- A word without a value does not reach over that value. -/
theorem prefix_append_cons_iff {w : List α} {c : α} (hc : c ∉ w) (a b : List α) :
    w <+: a ++ c :: b ↔ w <+: a := by
  constructor
  · intro hw
    have ha : a <+: a ++ c :: b := List.prefix_append a (c :: b)
    rcases List.prefix_or_prefix_of_prefix hw ha with hwa | ⟨t, rfl⟩
    · exact hwa
    · have ht : t <+: c :: b := (List.prefix_append_right_inj a).1 hw
      cases t with
      | nil => simp
      | cons d t =>
        have hd : d = c := (List.cons_prefix_cons.1 ht).1
        exact absurd (List.mem_append_right a (hd ▸ List.mem_cons_self)) hc
  · intro hw
    exact hw.trans (List.prefix_append a (c :: b))

/-- A word without a value lies before it or behind it. -/
theorem infix_append_cons_iff {w : List α} {c : α} (hw : w ≠ []) (hc : c ∉ w) (a b : List α) :
    w <:+: a ++ c :: b ↔ w <:+: a ∨ w <:+: b := by
  induction a with
  | nil =>
    have hfront : ¬w <+: c :: b := fun h =>
      hw (List.prefix_nil.1 ((prefix_append_cons_iff hc [] b).1 h))
    rw [List.nil_append, List.infix_cons_iff, List.infix_nil]
    exact ⟨fun h => .inr (h.resolve_left hfront), fun h => .inr (h.resolve_left hw)⟩
  | cons x a ih =>
    have hfront : w <+: x :: (a ++ c :: b) ↔ w <+: x :: a := prefix_append_cons_iff hc (x :: a) b
    rw [List.cons_append, List.infix_cons_iff, hfront, ih, List.infix_cons_iff, or_assoc]

section

variable {n : Nat} {x c : α}

/-- A run lies before a value of another kind or behind it. -/
theorem replicate_infix_append_cons_iff (hn : 0 < n) (hc : c ≠ x) (a b : List α) :
    List.replicate n x <:+: a ++ c :: b ↔
      List.replicate n x <:+: a ∨ List.replicate n x <:+: b := by
  refine infix_append_cons_iff ?_ ?_ a b
  · rw [Ne, List.replicate_eq_nil_iff]
    omega
  · intro hmem
    exact hc (List.eq_of_mem_replicate hmem)

theorem replicate_infix_cons_iff_of_ne (hn : 0 < n) (hc : c ≠ x) (b : List α) :
    List.replicate n x <:+: c :: b ↔ List.replicate n x <:+: b := by
  have hempty : ¬List.replicate n x <:+: [] := by
    rw [List.infix_nil, List.replicate_eq_nil_iff]
    omega
  have hcut := replicate_infix_append_cons_iff hn hc [] b
  rw [List.nil_append] at hcut
  rw [hcut]
  exact or_iff_right hempty

/-- A run lies behind whatever does not hold its value. -/
theorem replicate_infix_append_iff_of_not_mem (hn : 0 < n) {a : List α} (ha : x ∉ a)
    (b : List α) : List.replicate n x <:+: a ++ b ↔ List.replicate n x <:+: b := by
  induction a with
  | nil => rw [List.nil_append]
  | cons c a ih =>
    have hc : c ≠ x := fun hcx => ha (hcx ▸ List.mem_cons_self)
    have hrest : x ∉ a := fun hmem => ha (List.mem_cons_of_mem c hmem)
    rw [List.cons_append, replicate_infix_cons_iff_of_ne hn hc, ih hrest]

/-- One more of a value at the end makes the run at the end longer by one. -/
theorem replicate_succ_infix_concat_iff (n : Nat) (x : α) (a : List α) :
    List.replicate (n + 1) x <:+: a ++ [x] ↔
      List.replicate n x <:+ a ∨ List.replicate (n + 1) x <:+: a := by
  rw [List.infix_concat_iff, List.suffix_concat_iff, List.replicate_succ']
  simp

end

/-- The run at the front of a list is as long as the longest one that the list begins with. -/
theorem replicate_prefix_iff [DecidableEq α] (n : Nat) (x : α) (l : List α) :
    List.replicate n x <+: l ↔ n ≤ (l.takeWhile (· == x)).length := by
  induction l generalizing n with
  | nil => simp [List.prefix_nil, List.replicate_eq_nil_iff]
  | cons y l ih =>
    cases n with
    | zero => simp
    | succ n =>
      rw [List.replicate_succ, List.cons_prefix_cons, ih]
      by_cases hy : y = x
      · simp [hy]
      · have hx : x ≠ y := Ne.symm hy
        simp [hx, hy]

end HostReport
