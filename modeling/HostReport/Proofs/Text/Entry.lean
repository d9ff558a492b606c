import HostReport.Proofs.Text.FirstKnown
import HostReport.Proofs.Text.Line
import HostReport.Text.Entry
import Mathlib.Data.List.Basic

/-!
# Entries of listings one behind the other

The entries of two listings one behind the other are those of both, if the first one ends its line.
The value that counts for a key is then that of the first listing, and that of the second one only
where the first tells none, whether an empty value counts (`lookup_firstEntries`) or not
(`firstValue_append`).
-/

namespace HostReport

open Text

theorem entriesOf_append {a : String} (ha : EndsLine a.toList) (separator : Char) (b : String) :
    entriesOf separator (a ++ b) = entriesOf separator a ++ entriesOf separator b := by
  rw [entriesOf, String.toList_append, lines_append ha, List.filterMap_append, entriesOf, entriesOf]

/-! ## The first value that is not empty -/

section

variable (key : String) (es es' : List (String × String))

theorem firstValue_eq_firstKnown :
    firstValue key es = firstKnown ((es.filter fun e => e.1 = key).map (·.2)) := by
  rw [firstValue, firstKnown, List.find?_map, List.find?_filter]
  simp only [decide_eq_true_eq, Bool.decide_and, Bool.decide_eq_true, Function.comp_apply]

theorem firstValue_append :
    firstValue key (es ++ es') = chooseText (firstValue key es) (firstValue key es') := by
  simp only [firstValue_eq_firstKnown, List.filter_append, List.map_append, firstKnown_append,
    chooseText, String.isEmpty_iff]

end

/-! ## The first entry for each key -/

section

variable (es es' : List (String × String)) (key : String)

theorem isSome_lookup_cons (e : String × String) :
    ((e :: es).lookup key).isSome = (key == e.1 || (es.lookup key).isSome) := by
  rw [List.lookup_cons]
  cases key == e.1 <;> rfl

theorem isSome_lookup_append :
    ((es ++ es').lookup key).isSome = ((es.lookup key).isSome || (es'.lookup key).isSome) := by
  rw [List.lookup_append, Option.isSome_or]

/-- An entry for a key that has occurred makes no difference to which keys have. -/
theorem isSome_lookup_cons_of_isSome {e : String × String} (he : (es.lookup e.1).isSome = true) :
    ((e :: es).lookup key).isSome = (es.lookup key).isSome := by
  rw [isSome_lookup_cons]
  by_cases hkey : key = e.1
  · rw [hkey, he, Bool.or_true]
  · rw [beq_false_of_ne hkey, Bool.false_or]

theorem firstEntries_cons (before : List (String × String)) (e : String × String) :
    firstEntries before (e :: es) =
      if (before.lookup e.1).isSome then firstEntries before es
      else e :: firstEntries (e :: before) es := by
  have hany : (before.any fun e' => e'.1 = e.1) = (before.lookup e.1).isSome := by
    rw [Bool.eq_iff_iff, List.any_eq_true, List.lookup_isSome_iff]
    refine exists_congr fun p => and_congr_right fun _ => ?_
    rw [decide_eq_true_eq, beq_iff_eq, eq_comm]
  rw [firstEntries, hany]

/-- Which entries are left out depends on the keys that have occurred and on nothing else. -/
theorem firstEntries_congr {seen before : List (String × String)}
    (hkeys : ∀ k, (seen.lookup k).isSome = (before.lookup k).isSome) :
    firstEntries seen es = firstEntries before es := by
  induction es generalizing seen before with
  | nil => rfl
  | cons e es ih =>
    have hcons : ∀ k, ((e :: seen).lookup k).isSome = ((e :: before).lookup k).isSome := by
      intro k
      rw [isSome_lookup_cons, isSome_lookup_cons, hkeys]
    rw [firstEntries_cons, firstEntries_cons, hkeys, ih hkeys, ih hcons]

/-- Entries for keys that have occurred before are left out, and nothing else changes. -/
theorem firstEntries_append_left (seen before : List (String × String)) :
    firstEntries (seen ++ before) es =
      (firstEntries seen es).filter fun e => !(before.lookup e.1).isSome := by
  induction es generalizing seen with
  | nil => rfl
  | cons e es ih =>
    rw [firstEntries_cons, firstEntries_cons, isSome_lookup_append]
    cases hseen : (seen.lookup e.1).isSome with
    | true => rw [Bool.true_or, if_pos rfl, if_pos rfl, ih]
    | false =>
      rw [Bool.false_or, if_neg Bool.false_ne_true, List.filter_cons, ← ih, ← List.cons_append]
      cases hbefore : (before.lookup e.1).isSome with
      | true =>
        have hkey : ((seen ++ before).lookup e.1).isSome = true := by
          rw [isSome_lookup_append, hbefore, Bool.or_true]
        rw [if_pos rfl, if_neg (by decide)]
        exact (firstEntries_congr es fun k => isSome_lookup_cons_of_isSome _ k hkey).symm
      | false => rw [if_neg Bool.false_ne_true, if_pos (by decide)]

/-- Of two lists of entries one behind the other the second counts for the keys that the first one
does not have. -/
theorem firstEntries_append : firstEntries [] (es ++ es') =
    firstEntries [] es ++ (firstEntries [] es').filter fun e => !(es.lookup e.1).isSome := by
  have hall : ∀ before, firstEntries before (es ++ es') =
      firstEntries before es ++ firstEntries (es ++ before) es' := by
    induction es with
    | nil => exact fun _ => rfl
    | cons e es ih =>
      intro before
      rw [List.cons_append, firstEntries_cons, firstEntries_cons, ih, ih]
      cases hbefore : (before.lookup e.1).isSome with
      | true =>
        have hkey : ((es ++ before).lookup e.1).isSome = true := by
          rw [isSome_lookup_append, hbefore, Bool.or_true]
        rw [if_pos rfl, if_pos rfl, List.cons_append]
        exact congrArg (firstEntries before es ++ ·)
          (firstEntries_congr es' fun k => (isSome_lookup_cons_of_isSome _ k hkey).symm)
      | false =>
        have hkeys : ∀ k, ((es ++ e :: before).lookup k).isSome =
            ((e :: (es ++ before)).lookup k).isSome := by
          intro k
          simp only [isSome_lookup_append, isSome_lookup_cons]
          ac_rfl
        rw [if_neg Bool.false_ne_true, if_neg Bool.false_ne_true, firstEntries_congr es' hkeys]
        rfl
  rw [hall, List.append_nil, ← firstEntries_append_left]
  rfl

/-- Of the entries for a key the first one is found. -/
theorem lookup_firstEntries : (firstEntries [] es).lookup key = es.lookup key := by
  have hall : ∀ before, (firstEntries before es).lookup key =
      if (before.lookup key).isSome then none else es.lookup key := by
    induction es with
    | nil => exact fun _ => (ite_self none).symm
    | cons e es ih =>
      intro before
      rw [firstEntries_cons, List.lookup_cons]
      by_cases hkey : key = e.1
      · subst hkey
        rw [beq_self_eq_true]
        cases hbefore : (before.lookup e.1).isSome with
        | true => rw [if_pos rfl, ih, hbefore]; rfl
        | false => rw [if_neg Bool.false_ne_true, List.lookup_cons_self]; rfl
      · have hcons : ((e :: before).lookup key).isSome = (before.lookup key).isSome := by
          rw [isSome_lookup_cons, beq_false_of_ne hkey, Bool.false_or]
        rw [beq_false_of_ne hkey]
        split
        · rw [ih]
        · rw [List.lookup_cons, beq_false_of_ne hkey, ih, hcons]
  exact hall []

end

end HostReport
