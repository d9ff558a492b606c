import HostReport.Text.Blank
import Mathlib.Data.List.TakeWhile

/-!
# Trimming

Trimming takes the characters of a class from both ends of a text and leaves the rest alone.
-/

namespace HostReport.Text

variable {p : Char → Bool} {s u : List Char}

theorem trimEnd_concat {c : Char} (hc : p c = false) (s : List Char) :
    trimEnd p (s ++ [c]) = s ++ [c] := by
  induction s with
  | nil => simp [trimEnd, hc]
  | cons d s ih =>
    have hne : s ++ [c] ≠ [] := List.append_ne_nil_of_right_ne_nil s (List.cons_ne_nil c [])
    rw [List.cons_append, trimEnd, ih]
    split
    · next h => exact absurd h hne
    · rfl

/-- A text that neither begins nor ends with a character of the class is left alone. -/
theorem trim_eq_self (hfirst : ∀ c ∈ s.head?, p c = false) (hlast : ∀ c ∈ s.getLast?, p c = false) :
    trim p s = s := by
  have hstart : trimStart p s = s := by
    cases s with
    | nil => rfl
    | cons c s => exact List.dropWhile_cons_of_neg (by rw [hfirst c rfl]; decide)
  rw [trim, hstart]
  rcases List.eq_nil_or_concat s with rfl | ⟨s, c, rfl⟩
  · rfl
  · rw [List.concat_eq_append] at hlast ⊢
    exact trimEnd_concat (hlast c List.getLast?_concat) s

theorem trim_eq_self_of_forall (hs : ∀ c ∈ s, p c = false) : trim p s = s :=
  trim_eq_self (fun c hc => hs c (List.mem_of_mem_head? hc))
    fun c hc => hs c (List.mem_of_getLast? hc)

theorem trimEnd_prefix (p : Char → Bool) (s : List Char) : trimEnd p s <+: s := by
  induction s with
  | nil => exact List.prefix_rfl
  | cons c s ih =>
    rw [trimEnd]
    split
    · split
      · exact List.nil_prefix
      · exact (List.prefix_cons_inj c).2 List.nil_prefix
    · exact (List.prefix_cons_inj c).2 ih

theorem getLast?_trimEnd (p : Char → Bool) (s : List Char) :
    ∀ c ∈ (trimEnd p s).getLast?, p c = false := by
  induction s with
  | nil => exact fun _ hc => nomatch hc
  | cons c s ih =>
    rw [trimEnd]
    split
    · split
      · exact fun _ hc => nomatch hc
      · next hc => exact fun _ hlast => Option.some.inj hlast ▸ Bool.eq_false_iff.2 hc
    · next hne =>
      rw [List.getLast?_cons_of_ne_nil hne]
      exact ih

theorem head?_trim (p : Char → Bool) (s : List Char) : ∀ c ∈ (trim p s).head?, p c = false := by
  intro c hc
  obtain ⟨u, hu⟩ := trimEnd_prefix p (trimStart p s)
  have hfront : (s.dropWhile p).head? = some c := by
    rw [← trimStart, ← hu, List.head?_append, ← trim, hc, Option.some_or]
  have hnot := List.head?_dropWhile_not p s
  rw [hfront] at hnot
  exact hnot

/-- What has been cut from the ends once is not cut from them again, be the class smaller. -/
theorem trim_trim {q : Char → Bool} (hq : ∀ c, q c = true → p c = true) (s : List Char) :
    trim q (trim p s) = trim p s := by
  have hnot {c : Char} (hc : p c = false) : q c = false :=
    Bool.eq_false_iff.2 fun h => Bool.eq_false_iff.1 hc (hq c h)
  exact trim_eq_self (fun c hc => hnot (head?_trim p s c hc))
    fun c hc => hnot (getLast?_trimEnd p _ c hc)

/-- A character of the class at either end is cut off. -/
theorem trim_cons {c : Char} (hc : p c = true) (s : List Char) : trim p (c :: s) = trim p s := by
  rw [trim, trimStart, List.dropWhile_cons_of_pos hc]
  rfl

theorem trimEnd_concat_of_pos {c : Char} (hc : p c = true) (s : List Char) :
    trimEnd p (s ++ [c]) = trimEnd p s := by
  induction s with
  | nil => simp [trimEnd, hc]
  | cons d s ih => rw [List.cons_append, trimEnd, trimEnd, ih]

theorem trim_concat {c : Char} (hc : p c = true) (s : List Char) :
    trim p (s ++ [c]) = trim p s := by
  rw [trim, trim, trimStart, trimStart, List.dropWhile_append]
  cases s.dropWhile p with
  | nil => simp [trimEnd, hc]
  | cons d s => exact trimEnd_concat_of_pos hc (d :: s)

theorem trim_append_of_forall (hu : ∀ c ∈ u, p c = true) (s : List Char) :
    trim p (u ++ s) = trim p s := by
  rw [trim, trimStart, List.dropWhile_append_of_pos hu]
  rfl

end HostReport.Text
