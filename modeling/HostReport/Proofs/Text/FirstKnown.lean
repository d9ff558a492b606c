import HostReport.GeoIp.Info

/-!
# The first known of several texts

Where a text can be had from several places, in an order of preference, the first one that is not
empty counts.  Choosing between two texts is a case of it, so a chain of choices is the first known
text of a list, however the chain is put together.
-/

namespace HostReport

theorem chooseText_of_isEmpty {s : String} (hs : s.isEmpty = true) (t : String) :
    chooseText s t = t := if_pos hs

theorem chooseText_of_not_isEmpty {s : String} (hs : ¬s.isEmpty = true) (t : String) :
    chooseText s t = s := if_neg hs

theorem chooseText_assoc (s t u : String) :
    chooseText (chooseText s t) u = chooseText s (chooseText t u) := by
  by_cases hs : s.isEmpty = true
  · rw [chooseText_of_isEmpty hs, chooseText_of_isEmpty hs]
  · rw [chooseText_of_not_isEmpty hs, chooseText_of_not_isEmpty hs, chooseText_of_not_isEmpty hs]

/-- The first text that is not empty, or else an empty one. -/
def firstKnown (texts : List String) : String := (texts.find? fun t => !t.isEmpty).getD ""

theorem firstKnown_nil : firstKnown [] = "" := rfl

theorem firstKnown_singleton (t : String) : firstKnown [t] = t := by
  by_cases ht : t = ""
  · subst ht
    rfl
  · simp [firstKnown, ht]

/-- The first of several texts is chosen before the others. -/
theorem firstKnown_cons (t : String) (texts : List String) :
    firstKnown (t :: texts) = chooseText t (firstKnown texts) := by
  by_cases ht : t = ""
  · subst ht
    rfl
  · simp [firstKnown, chooseText, ht]

/-- Choosing between the first two texts keeps what is known first. -/
theorem firstKnown_chooseText (t u : String) (texts : List String) :
    firstKnown (chooseText t u :: texts) = firstKnown (t :: u :: texts) := by
  rw [firstKnown_cons, firstKnown_cons, firstKnown_cons, chooseText_assoc]

/-- The texts behind count where none is known before them. -/
theorem firstKnown_append (ts us : List String) :
    firstKnown (ts ++ us) = if firstKnown ts = "" then firstKnown us else firstKnown ts := by
  cases hts : ts.find? fun t => !t.isEmpty with
  | none => simp [firstKnown, List.find?_append, hts]
  | some t =>
    have ht : t ≠ "" := by simpa using List.find?_some hts
    simp [firstKnown, List.find?_append, hts, ht]

/-- Nothing is known where all texts are empty. -/
theorem firstKnown_eq_empty_iff (texts : List String) :
    firstKnown texts = "" ↔ ∀ t ∈ texts, t = "" := by
  induction texts with
  | nil => simp [firstKnown_nil]
  | cons t ts ih =>
    rw [firstKnown_cons, List.forall_mem_cons, ← ih]
    by_cases ht : t.isEmpty = true
    · rw [chooseText_of_isEmpty ht, and_iff_right (String.isEmpty_iff.1 ht)]
    · rw [chooseText_of_not_isEmpty ht]
      exact iff_of_false (mt String.isEmpty_iff.2 ht) fun hall => ht (String.isEmpty_iff.2 hall.1)

/-- What is known is one of the texts. -/
theorem firstKnown_mem {texts : List String} (hknown : firstKnown texts ≠ "") :
    firstKnown texts ∈ texts := by
  cases hfound : texts.find? fun t => !t.isEmpty with
  | none => exact absurd (by rw [firstKnown, hfound, Option.getD_none]) hknown
  | some t =>
    rw [firstKnown, hfound, Option.getD_some]
    exact List.mem_of_find?_eq_some hfound

end HostReport
