import HostReport.Proofs.Text.Pieces
import HostReport.Text.ShellWord

/-!
# Words of a command line as they are written

A word may be written in many ways: its characters stand for themselves, behind a backslash, between
apostrophes or between double quotes, each part in its own way.  `Spells` relates what is written to
the word that it stands for.  The reader never looks back: behind a part of a word it goes on as if
the characters of that part had stood there themselves (`splitAt_word_append`), so each word of a
line is read by itself.
-/

namespace HostReport.Text.ShellWord

/-! ## What is written for a word -/

/-- Whether a character has a meaning of its own outside of quotes. -/
def isSpecial (c : Char) : Bool := isGap c || c = '\\' || c = apostrophe || c = '"'

/-- What is written between double quotes stands for a text: a backslash makes a backslash or a
double quote behind it stand for itself, and before any other character it stands for itself. -/
inductive SpellsInQuotes : List Char → List Char → Prop where
  | nil : SpellsInQuotes [] []
  | plain {c : Char} {t s : List Char} (hbackslash : c ≠ '\\') (hquote : c ≠ '"') :
      SpellsInQuotes t s → SpellsInQuotes (c :: t) (c :: s)
  | escaped {c : Char} {t s : List Char} (hc : c = '\\' ∨ c = '"') :
      SpellsInQuotes t s → SpellsInQuotes ('\\' :: c :: t) (c :: s)
  | backslash {c : Char} {t s : List Char} (hbackslash : c ≠ '\\') (hquote : c ≠ '"') :
      SpellsInQuotes t s → SpellsInQuotes ('\\' :: c :: t) ('\\' :: c :: s)

/-- What is written stands for a word. -/
inductive Spells : List Char → List Char → Prop where
  | plain {c : Char} (hc : isSpecial c = false) : Spells [c] [c]
  | escaped (c : Char) : Spells ['\\', c] [c]
  | single {s : List Char} (hs : apostrophe ∉ s) : Spells (apostrophe :: (s ++ [apostrophe])) s
  | double {t s : List Char} : SpellsInQuotes t s → Spells ('"' :: (t ++ ['"'])) s
  | append {t t' s s' : List Char} : Spells t s → Spells t' s' → Spells (t ++ t') (s ++ s')

/-- The characters that stand for `c` between double quotes. -/
def escapeInQuotes (c : Char) : List Char := if c = '\\' ∨ c = '"' then ['\\', c] else [c]

/-- A text in double quotes, with a backslash before every backslash and double quote. -/
def inQuotes (s : List Char) : List Char := '"' :: (s.flatMap escapeInQuotes ++ ['"'])

theorem spellsInQuotes_escape (s : List Char) : SpellsInQuotes (s.flatMap escapeInQuotes) s := by
  induction s with
  | nil => exact .nil
  | cons c s ih =>
    rw [List.flatMap_cons, escapeInQuotes]
    by_cases hc : c = '\\' ∨ c = '"'
    · rw [if_pos hc]
      exact .escaped hc ih
    · rw [if_neg hc]
      exact .plain (fun h => hc (.inl h)) (fun h => hc (.inr h)) ih

theorem of_mem_inQuotes {s : List Char} {c : Char} (hc : c ∈ inQuotes s) :
    c = '"' ∨ c = '\\' ∨ c ∈ s := by
  simp only [inQuotes, List.mem_cons, List.mem_append, List.mem_flatMap, List.not_mem_nil,
    or_false] at hc
  rcases hc with rfl | ⟨d, hd, hc⟩ | rfl
  · exact .inl rfl
  · rw [escapeInQuotes] at hc
    split at hc
    · rcases List.mem_pair.1 hc with rfl | rfl
      · exact .inr (.inl rfl)
      · exact .inr (.inr hd)
    · exact .inr (.inr (List.mem_singleton.1 hc ▸ hd))
  · exact .inl rfl

theorem spells_inQuotes (s : List Char) : Spells (inQuotes s) s := .double (spellsInQuotes_escape s)

theorem spells_of_plain {s : List Char} (hne : s ≠ []) (hs : ∀ c ∈ s, isSpecial c = false) :
    Spells s s := by
  induction s with
  | nil => exact absurd rfl hne
  | cons c s ih =>
    obtain ⟨hc, hs⟩ := List.forall_mem_cons.1 hs
    by_cases hlast : s = []
    · rw [hlast]
      exact .plain hc
    · exact (Spells.plain hc).append (ih hlast hs)

/-- What is written for a word is not empty and does not begin with a gap. -/
theorem Spells.exists_cons {t s : List Char} (ht : Spells t s) :
    ∃ c r, t = c :: r ∧ isGap c = false := by
  induction ht with
  | plain hc =>
    simp only [isSpecial, Bool.or_eq_false_iff] at hc
    exact ⟨_, _, rfl, hc.1.1.1⟩
  | escaped c => exact ⟨_, _, rfl, by decide⟩
  | single _ => exact ⟨_, _, rfl, by decide⟩
  | double _ => exact ⟨_, _, rfl, by decide⟩
  | append _ _ ih _ =>
    obtain ⟨c, r, rfl, hc⟩ := ih
    exact ⟨c, _, List.cons_append, hc⟩

/-! ## Reading what is written -/

theorem splitAt_gap_of_not_isGap {c : Char} (hc : isGap c = false) (w r : List Char) :
    splitAt .gap w (c :: r) = splitAt .word [] (c :: r) := by
  rw [splitAt, splitAt, hc]
  rfl

theorem splitAt_word_of_not_isGap {c : Char} (hc : isGap c = false) (w r : List Char) :
    splitAt .word w (c :: r) = splitAt (enter c).1 (if (enter c).2 then c :: w else w) r := by
  rw [splitAt, hc]
  rfl

theorem splitAt_single_append {s : List Char} (hs : apostrophe ∉ s) (w r : List Char) :
    splitAt .single w (s ++ apostrophe :: r) = splitAt .word (s.reverse ++ w) r := by
  induction s generalizing w with
  | nil => exact if_pos rfl
  | cons c s ih =>
    rw [List.mem_cons, not_or] at hs
    rw [List.cons_append, splitAt, if_neg (Ne.symm hs.1), ih hs.2, List.reverse_cons,
      List.append_assoc, List.singleton_append]

theorem splitAt_double_append {t s : List Char} (ht : SpellsInQuotes t s) (w r : List Char) :
    splitAt .double w (t ++ '"' :: r) = splitAt .word (s.reverse ++ w) r := by
  induction ht generalizing w with
  | nil => exact if_pos rfl
  | plain hbackslash hquote _ ih =>
    rw [List.cons_append, splitAt, if_neg hquote, if_neg hbackslash, ih, List.reverse_cons,
      List.append_assoc, List.singleton_append]
  | escaped hc _ ih =>
    rw [List.cons_append, List.cons_append, splitAt, if_neg (by decide), if_pos rfl, splitAt,
      if_pos hc, ih, List.reverse_cons, List.append_assoc, List.singleton_append]
  | backslash hbackslash hquote _ ih =>
    rw [List.cons_append, List.cons_append, splitAt, if_neg (by decide), if_pos rfl, splitAt,
      if_neg (not_or.2 ⟨hbackslash, hquote⟩), ih, List.reverse_cons, List.reverse_cons,
      List.append_assoc, List.append_assoc]
    rfl

/-- Behind what is written for a part of a word the reader goes on as if that part had stood there
itself. -/
theorem splitAt_word_append {t s : List Char} (ht : Spells t s) (w r : List Char) :
    splitAt .word w (t ++ r) = splitAt .word (s.reverse ++ w) r := by
  induction ht generalizing w r with
  | @plain c hc =>
    simp only [isSpecial, Bool.or_eq_false_iff, decide_eq_false_iff_not] at hc
    obtain ⟨⟨⟨hgap, hbackslash⟩, hapostrophe⟩, hquote⟩ := hc
    have henter : enter c = (.word, true) := by
      rw [enter, if_neg hbackslash, if_neg hapostrophe, if_neg hquote]
    rw [List.singleton_append, splitAt_word_of_not_isGap hgap, henter]
    rfl
  | escaped c => rfl
  | single hs =>
    rw [List.cons_append, List.append_assoc, splitAt_word_of_not_isGap (by decide)]
    exact splitAt_single_append hs w r
  | double ht =>
    rw [List.cons_append, List.append_assoc, splitAt_word_of_not_isGap (by decide)]
    exact splitAt_double_append ht w r
  | append _ _ ih ih' =>
    rw [List.append_assoc, ih, ih', List.reverse_append, List.append_assoc]

/-- A word is read from what is written for it, whatever follows behind a space. -/
theorem split_append_space {t s : List Char} (ht : Spells t s) (r : List Char) :
    split (t ++ ' ' :: r) = (split r).map (s :: ·) := by
  obtain ⟨c, t', rfl, hc⟩ := ht.exists_cons
  have hspace : splitAt .word (s.reverse ++ []) (' ' :: r) = (splitAt .gap [] r).map (s :: ·) := by
    rw [splitAt, if_pos (by decide), List.append_nil, List.reverse_reverse]
  rw [split, List.cons_append, splitAt_gap_of_not_isGap hc, ← List.cons_append,
    splitAt_word_append ht, hspace, split]

theorem split_of_spells {t s : List Char} (ht : Spells t s) : split t = some [s] := by
  obtain ⟨c, t', rfl, hc⟩ := ht.exists_cons
  have hread := splitAt_word_append ht [] []
  rw [List.append_nil, List.append_nil] at hread
  rw [split, splitAt_gap_of_not_isGap hc, hread, splitAt, List.reverse_reverse]

/-- A word with what is written for it. -/
structure WrittenWord where
  text : List Char
  word : List Char
  spells : Spells text word

/-- Words with single spaces between what is written for them are read back. -/
theorem split_joinWith (ws : List WrittenWord) :
    split (joinWith [' '] (ws.map WrittenWord.text)) = some (ws.map WrittenWord.word) := by
  induction ws with
  | nil => rfl
  | cons w ws ih =>
    by_cases hlast : ws = []
    · rw [hlast]
      exact split_of_spells w.spells
    · have hne : ws.map WrittenWord.text ≠ [] := mt List.map_eq_nil_iff.1 hlast
      rw [List.map_cons, joinWith_cons_of_ne_nil [' '] w.text hne, List.append_assoc,
        List.singleton_append, split_append_space w.spells, ih]
      rfl

end HostReport.Text.ShellWord
