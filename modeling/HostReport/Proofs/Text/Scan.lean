import HostReport.Text.Scan
import HostReport.Proofs.Text.Line
import HostReport.Proofs.Text.Run
import Mathlib.Data.List.Forall2
import Mathlib.Data.List.TakeWhile

/-!
# What a scanner finds

A text put together from parts is scanned part by part, if no reading crosses a seam.  `Cuts` says
that of one seam: from no place before it does the scanner read otherwise than if the text ended
there.  Whether it holds is read off the scanner, since most scanners stop at whatever character
stands behind the seam (`EndsAt`), or begin with a word that does not occur before it.
-/

namespace HostReport.Text

/-! ## Deciding

What is said of the characters of a text is decided over the text, never over all characters. -/

instance (priority := high) decidableForallMem (s : List Char) (P : Char → Prop)
    [DecidablePred P] : Decidable (∀ c ∈ s, P c) :=
  List.decidableBAll P s

instance (priority := high) decidableForallMemOption (s : Option Char) (P : Char → Prop)
    [DecidablePred P] : Decidable (∀ c ∈ s, P c) :=
  decidable_of_iff (∀ c ∈ s.toList, P c) (by simp)

instance (priority := high) decidableExistsMem (s : List Char) (P : Char → Prop)
    [DecidablePred P] : Decidable (∃ c ∈ s, P c) :=
  List.decidableBEx P s

instance (priority := high) decidableExistsMemOption (s : Option Char) (P : Char → Prop)
    [DecidablePred P] : Decidable (∃ c ∈ s, P c) :=
  decidable_of_iff (∃ c ∈ s.toList, P c) (by simp)

namespace Scan

variable {α β : Type} {p : Scan α} {f : α → Scan β} {class' : Char → Bool} {s t u v : List Char}

/-! ## Readings -/

theorem bind_of_some {a : α} (h : p s = some (a, t)) : (p >>= f) s = f a t := by
  change (p s).bind (fun x => f x.1 x.2) = f a t
  rw [h]
  rfl

theorem bind_of_none (h : p s = none) : (p >>= f) s = none := by
  change (p s).bind (fun x => f x.1 x.2) = none
  rw [h]
  rfl

theorem exists_of_bind_eq_some {x : β × List Char} (h : (p >>= f) s = some x) :
    ∃ a t, p s = some (a, t) ∧ f a t = some x := by
  obtain ⟨⟨a, t⟩, hread, hrest⟩ := Option.bind_eq_some_iff.1 h
  exact ⟨a, t, hread, hrest⟩

theorem orElse_apply (p q : Scan α) (s : List Char) : (p <|> q) s = (p s).or (q s) := by
  change (p s <|> q s) = _
  rw [Option.orElse_eq_orElse, Option.orElse_eq_or]

theorem word_append (w : String) (s : List Char) : word w (w.toList ++ s) = some ((), s) := by
  have hread : w.toList.isPrefixOf? (w.toList ++ s) = some s :=
    List.isPrefixOf?_eq_some_iff_append_eq.2 rfl
  rw [word, hread]
  rfl

theorem word_eq_none {w : String} (h : ¬w.toList <+: s) : word w s = none := by
  have hread : w.toList.isPrefixOf? s = none := by
    rw [Option.eq_none_iff_forall_ne_some]
    intro r hr
    exact h ⟨r, List.isPrefixOf?_eq_some_iff_append_eq.1 hr⟩
  rw [word, hread]
  rfl

/-- A scanner that begins with a word reads what follows the word. -/
theorem isSome_word_bind_iff {w : String} {g : Unit → Scan β} :
    ((word w >>= g) s).isSome = true ↔ ∃ r, w.toList ++ r = s ∧ (g () r).isSome = true := by
  by_cases hw : w.toList <+: s
  · obtain ⟨r, rfl⟩ := hw
    rw [bind_of_some (word_append w r)]
    simp
  · rw [bind_of_none (word_eq_none hw)]
    exact iff_of_false nofun fun ⟨r, heq, _⟩ => hw ⟨r, heq⟩

theorem isSome_one_iff : (one class' s).isSome = true ↔ ∃ c ∈ s.head?, class' c = true := by
  cases s with
  | nil => simp [one]
  | cons c s =>
    by_cases hc : class' c = true
    · simp [one, hc]
    · simp [one, hc]

theorem run1_apply (s : List Char) :
    run1 class' s =
      if s.takeWhile class' = [] then none else some (s.takeWhile class', s.dropWhile class') := by
  cases s with
  | nil => rfl
  | cons c s =>
    by_cases hc : class' c = true
    · have hone : one class' (c :: s) = some (c, s) := if_pos hc
      have hrun : run class' s = some (s.takeWhile class', s.dropWhile class') := rfl
      rw [run1, bind_of_some hone, bind_of_some hrun, List.takeWhile_cons_of_pos hc,
        List.dropWhile_cons_of_pos hc, if_neg (List.cons_ne_nil c _)]
      rfl
    · have hone : one class' (c :: s) = none := if_neg hc
      rw [run1, bind_of_none hone, List.takeWhile_cons_of_neg hc, if_pos rfl]

theorem takeWhile_eq_nil_of_head? (hs : ∀ c ∈ s.head?, class' c = false) :
    s.takeWhile class' = [] := by
  cases s with
  | nil => rfl
  | cons c s => exact List.takeWhile_cons_of_neg (by rw [hs c rfl]; decide)

theorem dropWhile_eq_self_of_head? (hs : ∀ c ∈ s.head?, class' c = false) :
    s.dropWhile class' = s := by
  cases s with
  | nil => rfl
  | cons c s => exact List.dropWhile_cons_of_neg (by rw [hs c rfl]; decide)

/-- A text begins as its part at the front does. -/
theorem head?_append_of_forall {P : Char → Prop} (hne : u ≠ []) (hu : ∀ c ∈ u, P c)
    (s : List Char) : ∀ c ∈ (u ++ s).head?, P c := by
  intro c hc
  obtain ⟨d, u, rfl⟩ := List.exists_cons_of_ne_nil hne
  obtain rfl : d = c := Option.some.inj hc
  exact hu d List.mem_cons_self

/-- Parts that begin with the same character begin with it together, too. -/
theorem head?_flatMap_of_forall {ι : Type} {text : ι → List Char} {c : Char}
    (htext : ∀ i, (text i).head? = some c) (is : List ι) :
    ∀ d ∈ (is.flatMap text).head?, d = c := by
  intro d hd
  cases is with
  | nil => exact nomatch hd
  | cons i is =>
    rw [List.flatMap_cons, List.head?_append, htext i, Option.some_or] at hd
    exact (Option.some.inj hd).symm

/-- A run is read as a whole if a character of another kind follows it, or none. -/
theorem run1_append (hne : u ≠ []) (hu : ∀ c ∈ u, class' c = true)
    (hs : ∀ c ∈ s.head?, class' c = false) : run1 class' (u ++ s) = some (u, s) := by
  rw [run1_apply, List.takeWhile_append_of_pos hu, List.dropWhile_append_of_pos hu,
    takeWhile_eq_nil_of_head? hs, dropWhile_eq_self_of_head? hs, List.append_nil, if_neg hne]

theorem run1_eq_none (hs : ∀ c ∈ s.head?, class' c = false) : run1 class' s = none := by
  rw [run1_apply, takeWhile_eq_nil_of_head? hs, if_pos rfl]

theorem caselessChars_append {w : List Char}
    (hv : ∀ c ∈ v.head?, ∀ a ∈ w, sameLetter a c = false) (t : List Char) :
    caselessChars w (t ++ v) = (caselessChars w t).map (· ++ v) := by
  induction w generalizing t with
  | nil => rfl
  | cons a w ih =>
    cases t with
    | nil =>
      cases v with
      | nil => rfl
      | cons c v =>
        have hac : sameLetter a c = false := hv c rfl a List.mem_cons_self
        simp [caselessChars, hac]
    | cons c t =>
      rw [List.cons_append, caselessChars, caselessChars]
      split
      · exact ih (fun d hd b hb => hv d hd b (List.mem_cons_of_mem a hb)) t
      · rfl

theorem caselessChars_eq_some_iff {w r : List Char} :
    caselessChars w s = some r ↔
      ∃ t, List.Forall₂ (fun a c => sameLetter a c = true) w t ∧ s = t ++ r := by
  induction w generalizing s with
  | nil =>
    rw [caselessChars, Option.some.injEq]
    constructor
    · intro hs
      exact ⟨[], .nil, hs⟩
    · rintro ⟨t, ht, rfl⟩
      rw [List.forall₂_nil_left_iff.1 ht, List.nil_append]
  | cons a w ih =>
    cases s with
    | nil =>
      rw [caselessChars]
      constructor
      · exact nofun
      · rintro ⟨t, ht, hs⟩
        rw [(List.append_eq_nil_iff.1 hs.symm).1] at ht
        exact nomatch ht
    | cons c s =>
      rw [caselessChars]
      constructor
      · intro hread
        split at hread
        · next hac =>
          obtain ⟨t, ht, rfl⟩ := ih.1 hread
          exact ⟨c :: t, .cons hac ht, rfl⟩
        · exact nomatch hread
      · rintro ⟨t, ht, hs⟩
        cases ht with
        | cons hac ht =>
          rw [List.cons_append, List.cons.injEq] at hs
          obtain ⟨rfl, rfl⟩ := hs
          rw [if_pos hac]
          exact ih.2 ⟨_, ht, rfl⟩

theorem suffix_of_caseless {w : String} {x : Unit × List Char} (h : caseless w s = some x) :
    x.2 <:+ s := by
  obtain ⟨r, hr, rfl⟩ := Option.map_eq_some_iff.1 h
  obtain ⟨t, -, rfl⟩ := caselessChars_eq_some_iff.1 hr
  exact List.suffix_append t r

theorem suffix_of_run1 {x : List Char × List Char} (h : run1 class' s = some x) : x.2 <:+ s := by
  rw [run1_apply] at h
  split at h
  · exact nomatch h
  · obtain rfl := Option.some.inj h
    exact List.dropWhile_suffix class'

/-- A single space before a text that begins with no blank. -/
theorem blanks1_space (hs : ∀ c ∈ s.head?, isBlank c = false) :
    blanks1 (' ' :: s) = some ([' '], s) :=
  run1_append (u := [' ']) (List.cons_ne_nil _ _) (by simp [isBlank]) hs

/-! ## Readings that end -/

/-- Whether a scanner reads every text the same whether `v` follows it or not. -/
def EndsAt (p : Scan α) (v : List Char) : Prop :=
  ∀ t, p (t ++ v) = (p t).map fun x => (x.1, x.2 ++ v)

theorem endsAt_pure (a : α) (v : List Char) : EndsAt (pure a) v := fun _ => rfl

theorem EndsAt.bind (hp : EndsAt p v) (hf : ∀ a, EndsAt (f a) v) : EndsAt (p >>= f) v := by
  intro t
  have hread := hp t
  cases ht : p t with
  | none =>
    rw [ht] at hread
    rw [bind_of_none ht, bind_of_none hread]
    rfl
  | some x =>
    rw [ht] at hread
    rw [bind_of_some ht, bind_of_some hread]
    exact hf x.1 x.2

theorem endsAt_word {w : String} (hv : ∀ c ∈ v.head?, c ∉ w.toList) : EndsAt (word w) v := by
  have hchars (w t : List Char) (hv : ∀ c ∈ v.head?, c ∉ w) :
      w.isPrefixOf? (t ++ v) = (w.isPrefixOf? t).map (· ++ v) := by
    induction w generalizing t with
    | nil => simp [List.isPrefixOf?]
    | cons a w ih =>
      cases t with
      | nil =>
        cases v with
        | nil => rfl
        | cons c v =>
          have hac : ¬a = c := fun hac => hv c rfl (hac ▸ List.mem_cons_self)
          simp [List.isPrefixOf?, hac]
      | cons c t =>
        by_cases hac : a = c
        · have hrest := ih t fun d hd hmem => hv d hd (List.mem_cons_of_mem a hmem)
          simpa [List.isPrefixOf?, hac] using hrest
        · simp [List.isPrefixOf?, hac]
  intro t
  rw [word, hchars _ t hv, Option.map_map, word, Option.map_map]
  rfl

/-- A run that stops before the seam does not see what is behind it. -/
theorem run1_append_of_dropWhile_ne_nil (ht : t.dropWhile class' ≠ []) (v : List Char) :
    run1 class' (t ++ v) = (run1 class' t).map fun x => (x.1, x.2 ++ v) := by
  have hshort : ¬(t.takeWhile class').length = t.length := by
    intro hall
    have hsplit := List.takeWhile_append_dropWhile (p := class') (l := t)
    rw [(List.takeWhile_prefix class').eq_of_length hall] at hsplit
    exact ht (List.self_eq_append_right.1 hsplit.symm)
  have hdrop : ¬(t.dropWhile class').isEmpty = true := mt List.isEmpty_iff.1 ht
  rw [run1_apply, run1_apply, List.takeWhile_append, if_neg hshort, List.dropWhile_append,
    if_neg hdrop]
  split
  · rfl
  · rfl

/-- A run ends where a character of another kind follows. -/
theorem endsAt_run1 (hv : ∀ c ∈ v.head?, class' c = false) : EndsAt (run1 class') v := by
  intro t
  by_cases ht : t.dropWhile class' = []
  · have hall : ∀ c ∈ t, class' c = true := List.dropWhile_eq_nil_iff.1 ht
    by_cases hempty : t = []
    · rw [hempty, List.nil_append, run1_eq_none hv]
      rfl
    · have halone := run1_append hempty hall (s := []) nofun
      rw [List.append_nil] at halone
      rw [run1_append hempty hall hv, halone]
      rfl
  · exact run1_append_of_dropWhile_ne_nil ht v

/-- A run may go on behind the seam where nothing is read behind the run. -/
theorem endsAt_run1_bind_of_none {g : List Char → Scan β} (hg : ∀ a, EndsAt (g a) v)
    (hnil : ∀ a, g a [] = none) (hskip : ∀ a, g a (v.dropWhile class') = none) :
    EndsAt (run1 class' >>= g) v := by
  intro t
  by_cases ht : t.dropWhile class' = []
  · have hnone (s : List Char) (hs : ∀ a, g a (s.dropWhile class') = none) :
        (run1 class' >>= g) s = none := by
      have hrun : run1 class' s = if s.takeWhile class' = [] then none
          else some (s.takeWhile class', s.dropWhile class') := run1_apply s
      split at hrun
      · exact bind_of_none hrun
      · rw [bind_of_some hrun, hs]
    have hdrop : (t ++ v).dropWhile class' = v.dropWhile class' := by
      rw [List.dropWhile_append, ht, List.isEmpty_nil, if_pos rfl]
    rw [hnone t (by rwa [ht]), hnone (t ++ v) (by rwa [hdrop])]
    rfl
  · have hread := run1_append_of_dropWhile_ne_nil ht v
    cases hrun : run1 class' t with
    | none =>
      rw [hrun] at hread
      rw [bind_of_none hrun, bind_of_none hread]
      rfl
    | some x =>
      rw [hrun] at hread
      rw [bind_of_some hrun, bind_of_some hread]
      exact hg x.1 x.2

theorem endsAt_caseless {w : String}
    (hv : ∀ c ∈ v.head?, ∀ a ∈ w.toList, sameLetter a c = false) : EndsAt (caseless w) v := by
  intro t
  rw [caseless, caselessChars_append hv, Option.map_map, caseless, Option.map_map]
  rfl

theorem EndsAt.orElse {q : Scan α} (hp : EndsAt p v) (hq : EndsAt q v) : EndsAt (p <|> q) v := by
  intro t
  rw [orElse_apply, orElse_apply, hp, hq]
  cases p t with
  | none => rfl
  | some x => rfl

/-! ## Seams -/

/-- Whether a scanner reads, from each place within `u` on, the same whether `v` follows or not. -/
def Cuts (p : Scan α) (u v : List Char) : Prop :=
  ∀ t, t ≠ [] → t <:+ u → p (t ++ v) = (p t).map fun x => (x.1, x.2 ++ v)

theorem EndsAt.cuts (h : EndsAt p v) (u : List Char) : Cuts p u v := fun t _ _ => h t

theorem Cuts.of_cons {c : Char} (h : Cuts p (c :: u) v) : Cuts p u v :=
  fun t hne ht => h t hne (ht.trans (List.suffix_cons c u))

/-- A scanner that begins with a word reads nothing across a seam, if what is behind the seam
neither continues the word nor what follows it. -/
theorem cuts_caseless_bind {w : String} {g : Unit → Scan β}
    (hv : ∀ c ∈ v.head?, ∀ a ∈ w.toList.tail, sameLetter a c = false) (hg : ∀ a, EndsAt (g a) v)
    (u : List Char) : Cuts (caseless w >>= g) u v := by
  intro t hne _
  have hword : caseless w (t ++ v) = (caseless w t).map fun x => (x.1, x.2 ++ v) := by
    obtain ⟨c, t, rfl⟩ := List.exists_cons_of_ne_nil hne
    rw [caseless, caseless, Option.map_map]
    cases hw : w.toList with
    | nil => rfl
    | cons a w' =>
      rw [hw] at hv
      rw [List.cons_append, caselessChars, caselessChars, caselessChars_append (w := w') hv]
      split
      · rw [Option.map_map]
        rfl
      · rfl
  cases ht : caseless w t with
  | none =>
    rw [ht] at hword
    rw [bind_of_none ht, bind_of_none hword]
    rfl
  | some x =>
    rw [ht] at hword
    rw [bind_of_some ht, bind_of_some hword]
    exact hg x.1 x.2

theorem findAll_cons_of_none {c : Char} (h : p (c :: s) = none) :
    findAll p (c :: s) = findAll p s := by
  rw [findAll, findAllFrom, h]
  rfl

theorem findAll_cons_of_some {c : Char} {a : α} (h : p (c :: s) = some (a, t)) :
    findAll p (c :: s) = a :: findAllFrom p (s.length - t.length) s := by
  rw [findAll, findAllFrom, h]

theorem findAllFrom_append (h : Cuts p u v) {skip : Nat} (hskip : skip ≤ u.length) :
    findAllFrom p skip (u ++ v) = findAllFrom p skip u ++ findAllFrom p 0 v := by
  induction u generalizing skip with
  | nil =>
    obtain rfl : skip = 0 := by simpa using hskip
    rfl
  | cons c u ih =>
    cases skip with
    | succ skip => exact ih h.of_cons (Nat.le_of_succ_le_succ hskip)
    | zero =>
      have hread := h (c :: u) (List.cons_ne_nil c u) (List.suffix_refl _)
      rw [List.cons_append] at hread ⊢
      rw [findAllFrom, findAllFrom, hread]
      cases p (c :: u) with
      | none => exact ih h.of_cons (Nat.zero_le _)
      | some x =>
        have hlength : (u ++ v).length - (x.2 ++ v).length = u.length - x.2.length := by
          rw [List.length_append, List.length_append, Nat.add_sub_add_right]
        change x.1 :: findAllFrom p ((u ++ v).length - (x.2 ++ v).length) (u ++ v) = _
        rw [hlength, ih h.of_cons (Nat.sub_le _ _)]
        rfl

/-- On both sides of a seam a scanner finds what it finds in the parts. -/
theorem findAll_append (h : Cuts p u v) : findAll p (u ++ v) = findAll p u ++ findAll p v :=
  findAllFrom_append h (Nat.zero_le _)

/-- Whether the last line ends with a line feed makes no difference to a scanner that ends there. -/
theorem findAll_of_isWrittenAs {ls : List (List Char)} (h : EndsAt p ['\n'])
    (hnone : p ['\n'] = none) (hs : IsWrittenAs s ls) : findAll p s = findAll p (unlines ls) := by
  rcases hs with rfl | hs
  · rfl
  · have hend : findAll p ['\n'] = [] := findAll_cons_of_none hnone
    rw [← hs, findAll_append (h.cuts s), hend, List.append_nil]

/-- Places from which nothing is read are passed over. -/
theorem findAll_append_of_none (h : ∀ t, t ≠ [] → t <:+ u → p (t ++ v) = none) :
    findAll p (u ++ v) = findAll p v := by
  induction u with
  | nil => rfl
  | cons c u ih =>
    have hhere := h (c :: u) (List.cons_ne_nil c u) (List.suffix_refl _)
    rw [List.cons_append] at hhere ⊢
    rw [findAll_cons_of_none hhere]
    exact ih fun t hne ht => h t hne (ht.trans (List.suffix_cons c u))

theorem findAllFrom_length (u v : List Char) :
    findAllFrom p u.length (u ++ v) = findAll p v := by
  induction u with
  | nil => rfl
  | cons c u ih => exact ih

/-- Behind what is read from the first place on, a scanner goes on. -/
theorem findAll_append_of_some {a : α} (hne : u ≠ []) (h : p (u ++ v) = some (a, v)) :
    findAll p (u ++ v) = a :: findAll p v := by
  obtain ⟨c, u, rfl⟩ := List.exists_cons_of_ne_nil hne
  have hlength : (u ++ v).length - v.length = u.length := by
    rw [List.length_append, Nat.add_sub_cancel]
  rw [List.cons_append] at h ⊢
  rw [findAll_cons_of_some h, hlength, findAllFrom_length]

/-- Where each part gives one find before whatever begins like a part, parts in a row give theirs in
that order. -/
theorem findAll_flatMap {ι : Type} {text : ι → List Char} {found : ι → α} {c : Char}
    (htext : ∀ i, (text i).head? = some c)
    (hfound : ∀ i s, (∀ d ∈ s.head?, d = c) → findAll p (text i ++ s) = found i :: findAll p s)
    (is : List ι) : findAll p (is.flatMap text) = is.map found := by
  induction is with
  | nil => rfl
  | cons i is ih =>
    rw [List.flatMap_cons, hfound i _ (head?_flatMap_of_forall htext is), ih, List.map_cons]

theorem findFirst_cons_of_none {c : Char} (h : p (c :: s) = none) :
    findFirst p (c :: s) = findFirst p s := by
  rw [findFirst, h]

theorem findFirst_of_some {a : α} (hne : s ≠ []) (h : p s = some (a, t)) :
    findFirst p s = some a := by
  obtain ⟨c, s, rfl⟩ := List.exists_cons_of_ne_nil hne
  rw [findFirst, h]

/-- Something is found exactly if something is read from some place on. -/
theorem isSome_findFirst_iff (s : List Char) :
    (findFirst p s).isSome = true ↔ ∃ t, t ≠ [] ∧ t <:+ s ∧ (p t).isSome = true := by
  induction s with
  | nil => exact iff_of_false nofun fun ⟨t, hne, ht, _⟩ => hne (List.suffix_nil.1 ht)
  | cons c s ih =>
    cases hread : p (c :: s) with
    | none =>
      rw [findFirst_cons_of_none hread, ih]
      constructor
      · rintro ⟨t, hne, ht, hsome⟩
        exact ⟨t, hne, ht.trans (List.suffix_cons c s), hsome⟩
      · rintro ⟨t, hne, ht, hsome⟩
        rcases List.suffix_cons_iff.1 ht with rfl | ht
        · rw [hread] at hsome
          exact nomatch hsome
        · exact ⟨t, hne, ht, hsome⟩
    | some x =>
      rw [findFirst_of_some (List.cons_ne_nil c s) hread]
      refine iff_of_true rfl ⟨c :: s, List.cons_ne_nil c s, List.suffix_refl _, ?_⟩
      rw [hread]
      rfl

/-- What is found is read somewhere. -/
theorem exists_of_findFirst_eq_some {a : α} (h : findFirst p s = some a) :
    ∃ t rest, p t = some (a, rest) := by
  induction s with
  | nil => exact nomatch h
  | cons c s ih =>
    cases hread : p (c :: s) with
    | none => exact ih ((findFirst_cons_of_none hread).symm.trans h)
    | some x =>
      cases (findFirst_of_some (List.cons_ne_nil c s) hread).symm.trans h
      exact ⟨c :: s, x.2, hread⟩

theorem findFirst_append (h : Cuts p u v) :
    findFirst p (u ++ v) = (findFirst p u).or (findFirst p v) := by
  induction u with
  | nil => rfl
  | cons c u ih =>
    have hread := h (c :: u) (List.cons_ne_nil c u) (List.suffix_refl _)
    rw [List.cons_append] at hread ⊢
    cases hu : p (c :: u) with
    | none =>
      rw [hu] at hread
      rw [findFirst_cons_of_none hread, findFirst_cons_of_none hu, ih h.of_cons]
    | some x =>
      rw [hu] at hread
      rw [findFirst_of_some (List.cons_ne_nil c u) hu,
        findFirst_of_some (List.cons_ne_nil c (u ++ v)) hread]
      rfl

/-! ## Words that do not occur -/

/-- A word that does not occur before a seam does not begin before it, if the character behind the
seam is none that continues the word. -/
theorem not_prefix_append {w : List Char} (hu : ¬w <:+: u)
    (hv : ∀ c ∈ v.head?, c ∉ w.tail) (hne : t ≠ []) (ht : t <:+ u) : ¬w <+: t ++ v := by
  intro hw
  rcases List.prefix_or_prefix_of_prefix hw (List.prefix_append t v) with hwt | ⟨x, rfl⟩
  · exact hu (hwt.isInfix.trans ht.isInfix)
  · have hx : x <+: v := (List.prefix_append_right_inj t).1 hw
    cases x with
    | nil => exact hu (by simpa using ht.isInfix)
    | cons c x =>
      obtain ⟨r, rfl⟩ := hx
      obtain ⟨d, t, rfl⟩ := List.exists_cons_of_ne_nil hne
      exact hv c rfl (List.mem_append_right t List.mem_cons_self)

section

variable {w : String} {g : Unit → Scan β}

/-- A text in which the first word of a scanner does not occur is passed over. -/
theorem findAll_append_of_wordless (hu : ¬w.toList <:+: u)
    (hv : ∀ c ∈ v.head?, c ∉ w.toList.tail) :
    findAll (word w >>= g) (u ++ v) = findAll (word w >>= g) v :=
  findAll_append_of_none fun _ hne ht =>
    bind_of_none (word_eq_none (not_prefix_append hu hv hne ht))

/-- A text without the first character of a scanner's first word is passed over. -/
theorem findAll_append_of_head_not_mem (hu : ∀ c ∈ w.toList.head?, c ∉ u) (hw : w ≠ "") :
    findAll (word w >>= g) (u ++ v) = findAll (word w >>= g) v := by
  refine findAll_append_of_none fun t hne ht => bind_of_none (word_eq_none ?_)
  obtain ⟨c, t, rfl⟩ := List.exists_cons_of_ne_nil hne
  obtain ⟨d, w', hw'⟩ := List.exists_cons_of_ne_nil (mt String.toList_eq_nil_iff.1 hw)
  rw [hw', List.cons_append, List.cons_prefix_cons]
  rintro ⟨rfl, -⟩
  exact hu d (by rw [hw']; rfl) (ht.subset List.mem_cons_self)

end

end Scan

/-! ## Words in any case -/

/-- Whether a word stands somewhere in a text, in whatever case. -/
def Says (w u : List Char) : Prop :=
  ∃ t, t <:+: u ∧ List.Forall₂ (fun a c => sameLetter a c = true) w t

theorem says_iff {w u : List Char} :
    Says w u ↔ ∃ t ∈ u.tails, (Scan.caselessChars w t).isSome = true := by
  constructor
  · rintro ⟨t, ⟨a, b, rfl⟩, ht⟩
    have hread : Scan.caselessChars w (t ++ b) = some b :=
      Scan.caselessChars_eq_some_iff.2 ⟨t, ht, rfl⟩
    refine ⟨t ++ b, (List.mem_tails _ _).2 ⟨a, (List.append_assoc a t b).symm⟩, ?_⟩
    rw [hread]
    rfl
  · rintro ⟨t, ht, hread⟩
    obtain ⟨r, hr⟩ := Option.isSome_iff_exists.1 hread
    obtain ⟨t, hwt, rfl⟩ := Scan.caselessChars_eq_some_iff.1 hr
    exact ⟨t, (List.prefix_append t r).isInfix.trans ((List.mem_tails _ _).1 ht).isInfix, hwt⟩

instance (w u : List Char) : Decidable (Says w u) := decidable_of_iff _ says_iff.symm

end HostReport.Text
