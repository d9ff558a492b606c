import HostReport.Json.Reader
import HostReport.Proofs.Number.Numeral
import HostReport.Proofs.Text.Scan

/-!
# JSON with blanks

The tokens of a JSON text may have blanks before, between and behind them.  However they are
spaced, the same value is read.  This is shown of objects whose members are texts and natural
numbers, and of arrays of such objects.
-/

namespace HostReport.Json

open Numeral

/-- Whether a text consists of tokens, with blanks before, between and behind them. -/
inductive Spaced : List (List Char) → List Char → Prop where
  | nil {ws : List Char} (hws : ∀ c ∈ ws, isSpace c = true) : Spaced [] ws
  | cons {ws t s : List Char} {ts : List (List Char)} (hws : ∀ c ∈ ws, isSpace c = true)
      (hs : Spaced ts s) : Spaced (t :: ts) (ws ++ (t ++ s))

section

variable {c : Char} {t s : List Char} {ts : List (List Char)}

theorem skipSpace_append {ws : List Char} (hws : ∀ c ∈ ws, isSpace c = true) (s : List Char) :
    skipSpace (ws ++ s) = skipSpace s := by
  rw [skipSpace, List.dropWhile_append_of_pos hws]
  rfl

theorem skipSpace_cons (hc : isSpace c = false) (s : List Char) : skipSpace (c :: s) = c :: s :=
  List.dropWhile_cons_of_neg (by rw [hc]; decide)

/-- Behind blanks the next token is at hand. -/
theorem Spaced.exists_skipSpace_eq (hs : Spaced ((c :: t) :: ts) s) (hc : isSpace c = false) :
    ∃ r, skipSpace s = c :: (t ++ r) ∧ Spaced ts r := by
  cases hs with
  | cons hws hr => exact ⟨_, (skipSpace_append hws _).trans (skipSpace_cons hc _), hr⟩

theorem spaced_flatMap {ws : List Char} (hws : ∀ c ∈ ws, isSpace c = true)
    (ts : List (List Char)) : Spaced ts (ts.flatMap (ws ++ ·)) := by
  induction ts with
  | nil => exact .nil nofun
  | cons t ts ih =>
    rw [List.flatMap_cons, List.append_assoc]
    exact .cons hws ih

theorem Spaced.skipSpace_eq_nil (hs : Spaced [] s) : skipSpace s = [] := by
  cases hs with
  | nil hws => exact List.dropWhile_eq_nil_iff.2 hws

theorem Spaced.length_le (hs : Spaced ts s) (hts : [] ∉ ts) : ts.length ≤ s.length := by
  induction hs with
  | nil => exact Nat.zero_le _
  | cons hws hr ih =>
    obtain ⟨hne, hts⟩ := not_or.1 (mt List.mem_cons.2 hts)
    have htoken := List.length_pos_iff.2 (Ne.symm hne)
    have hrest := ih hts
    simp only [List.length_cons, List.length_append]
    omega

end

theorem ok_bind {α β : Type} (x : α) (next : α → Except ReadFault β) :
    (Except.ok x >>= next) = next x :=
  rfl

/-! ## Texts and numbers -/

/-- Whether a character stands for itself within quotes. -/
def IsShownAsIs (c : Char) : Prop := c ≠ '"' ∧ c ≠ '\\' ∧ 32 ≤ c.toNat

instance : DecidablePred IsShownAsIs := fun _ => inferInstanceAs (Decidable (_ ∧ _))

/-- A text, or a natural number, that is written without escapes. -/
inductive Leaf where
  | text (cs : List Char) (shown : ∀ c ∈ cs, IsShownAsIs c)
  | number (n : Nat) (lt : n < 10 ^ maxDigits)

/-- A text between quotes. -/
def quote (cs : List Char) : List Char := '"' :: (cs ++ ['"'])

namespace Leaf

/-- How it is written. -/
def token : Leaf → List Char
  | text cs _ => quote cs
  | number n _ => Nat.toDigits 10 n

/-- What it denotes. -/
def value : Leaf → Json
  | text cs _ => .text (String.ofList cs)
  | number n _ => .int n

end Leaf

theorem textBody_append_quote {cs : List Char} (hcs : ∀ c ∈ cs, IsShownAsIs c) {fuel : Nat}
    (hfuel : cs.length < fuel) (r : List Char) : textBody fuel (cs ++ '"' :: r) = some (cs, r) := by
  induction cs generalizing fuel with
  | nil =>
    obtain ⟨fuel, rfl⟩ := Nat.exists_eq_succ_of_ne_zero (Nat.ne_of_gt hfuel)
    rfl
  | cons c cs ih =>
    obtain ⟨⟨hquote, hescape, hcontrol⟩, hcs⟩ := List.forall_mem_cons.1 hcs
    obtain ⟨fuel, rfl⟩ := Nat.exists_eq_succ_of_ne_zero (Nat.ne_of_gt (Nat.zero_lt_of_lt hfuel))
    have hrest := ih hcs (Nat.lt_of_succ_lt_succ hfuel)
    obtain ⟨e, s, hs⟩ := List.exists_cons_of_ne_nil
      (List.append_ne_nil_of_right_ne_nil cs (List.cons_ne_nil '"' r))
    rw [hs] at hrest
    rw [List.cons_append, hs, textBody, if_neg hquote, if_neg hescape, if_neg (by omega), hrest]
    rfl

theorem readText_append_quote {cs : List Char} (hcs : ∀ c ∈ cs, IsShownAsIs c) (r : List Char) :
    readText (cs ++ '"' :: r) = .ok (String.ofList cs, r) := by
  have hfuel : cs.length < (cs ++ '"' :: r).length + 1 := by
    rw [List.length_append]
    omega
  rw [readText, textBody_append_quote hcs hfuel]

/-- Whether a number ends before a text. -/
def EndsNumber (r : List Char) : Prop := ∀ c ∈ r.head?, c.isDigit = false ∧ c ∉ ['.', 'e', 'E']

theorem splitFraction_of_endsNumber {r : List Char} (hr : EndsNumber r) :
    splitFraction r = ([], r) := by
  unfold splitFraction
  split
  · next s => exact absurd List.mem_cons_self (hr '.' rfl).2
  · rfl

theorem splitExponent_of_endsNumber {r : List Char} (hr : EndsNumber r) :
    splitExponent r = ([], r) := by
  cases r with
  | nil => rfl
  | cons c r =>
    have hc := (hr c rfl).2
    have he : ¬(c = 'e' ∨ c = 'E') := by
      rintro (rfl | rfl)
      · exact hc (by decide)
      · exact hc (by decide)
    simp only [splitExponent, Bool.or_eq_true, decide_eq_true_eq, if_neg he]

/-- A natural number is read from its digits. -/
theorem readNumber_toDigits_append {n : Nat} (hn : n < 10 ^ maxDigits) {r : List Char}
    (hr : EndsNumber r) : readNumber false (Nat.toDigits 10 n ++ r) = .ok (.int n, r) := by
  rcases Nat.eq_zero_or_pos n with rfl | hpos
  · have hzero : Nat.toDigits 10 0 ++ r = '0' :: r := rfl
    have hdrop : ('0' :: r).drop ['0'].length = r := rfl
    rw [hzero, readNumber, hdrop, splitFraction_of_endsNumber hr]
    dsimp only
    rw [splitExponent_of_endsNumber hr]
    rfl
  · have hhead : ∀ s, Nat.toDigits 10 n ++ r = '0' :: s → False := by
      intro s hs
      obtain ⟨d, ds, hd⟩ := List.exists_cons_of_ne_nil (Nat.toDigits_ne_nil (b := 10) (n := n))
      have hne := head?_toDigits_ne hpos
      rw [hd] at hs hne
      exact hne (congrArg some (List.cons.inj hs).1)
    have htake : (Nat.toDigits 10 n ++ r).takeWhile Char.isDigit = Nat.toDigits 10 n := by
      rw [List.takeWhile_append_of_pos isDigit_of_mem_toDigits,
        Text.Scan.takeWhile_eq_nil_of_head? fun c hc => (hr c hc).1, List.append_nil]
    have hne : ¬(Nat.toDigits 10 n).isEmpty = true := mt List.isEmpty_iff.1 Nat.toDigits_ne_nil
    have hlength : (Nat.toDigits 10 n).length ≤ maxDigits :=
      (Nat.length_toDigits_le_iff (by decide) (by decide)).2 hn
    rw [readNumber.eq_2 _ _ hhead, htake, if_neg hne, List.drop_left,
      splitFraction_of_endsNumber hr]
    dsimp only
    rw [splitExponent_of_endsNumber hr]
    dsimp only
    rw [ofAsciiDigits_toDigits]
    simp [hlength]

/-! ## Values -/

/-- Whether the tokens behind a value separate it from others or close what encloses it. -/
def Closes (ts : List (List Char)) : Prop := ∀ t ∈ ts.head?, t ∈ [[','], [']'], ['\x7d']]

theorem Spaced.endsNumber {ts : List (List Char)} {s : List Char} (hs : Spaced ts s)
    (hts : Closes ts) : EndsNumber s := by
  have hspace {c : Char} (hc : isSpace c = true) : c.isDigit = false ∧ c ∉ ['.', 'e', 'E'] := by
    simp only [isSpace, Bool.or_eq_true, beq_iff_eq] at hc
    rcases hc with ((rfl | rfl) | rfl) | rfl
    all_goals decide
  intro c hc
  cases hs with
  | nil hws => exact hspace (hws c (List.mem_of_mem_head? hc))
  | @cons ws t r ts hws hr =>
    cases ws with
    | cons d ws =>
      obtain rfl : d = c := Option.some.inj hc
      exact hspace (hws d List.mem_cons_self)
    | nil =>
      have htokens : ∀ t ∈ [[','], [']'], ['\x7d']], ∃ d, t = [d] ∧
          d.isDigit = false ∧ d ∉ ['.', 'e', 'E'] := by
        simp
      obtain ⟨d, rfl, hd⟩ := htokens t (hts t rfl)
      obtain rfl : d = c := Option.some.inj hc
      exact hd

theorem readWord?_cons {c : Char} (hc : c ∉ ['n', 't', 'f', 'N', 'I', '-']) (s : List Char) :
    readWord? (c :: s) = none := by
  simp only [List.mem_cons, List.not_mem_nil, or_false, not_or] at hc
  simp [readWord?, wordValues, List.isPrefixOf?, hc, Ne.symm]

theorem readValue_toDigits_append {n : Nat} (hn : n < 10 ^ maxDigits) {r : List Char}
    (hr : EndsNumber r) (fuel nesting : Nat) :
    readValue (fuel + 1) nesting (Nat.toDigits 10 n ++ r) = .ok (.int n, r) := by
  obtain ⟨d, ds, hd⟩ := List.exists_cons_of_ne_nil (Nat.toDigits_ne_nil (b := 10) (n := n))
  have hdigit : d.isDigit = true := isDigit_of_mem_toDigits d (hd ▸ List.mem_cons_self)
  have hhead {c : Char} (hc : c.isDigit = false) (s : List Char) :
      Nat.toDigits 10 n ++ r = c :: s → False := by
    rw [hd]
    intro h
    rw [(List.cons.inj h).1, hc] at hdigit
    exact nomatch hdigit
  have hword : readWord? (Nat.toDigits 10 n ++ r) = none := by
    have hletters : ∀ c ∈ ['n', 't', 'f', 'N', 'I', '-'], c.isDigit = false := by decide
    rw [hd]
    refine readWord?_cons (fun h => ?_) _
    rw [hletters d h] at hdigit
    exact nomatch hdigit
  rw [readValue.eq_8 _ _ _ (hhead (by decide)) (hhead (by decide)) (hhead (by decide))
    (hhead (by decide)), hword]
  exact readNumber_toDigits_append hn hr

theorem Leaf.exists_readValue (leaf : Leaf) {s : List Char} {ts : List (List Char)}
    (hs : Spaced (leaf.token :: ts) s) (hts : Closes ts) (fuel nesting : Nat) :
    ∃ r, Spaced ts r ∧ readValue (fuel + 1) nesting (skipSpace s) = .ok (leaf.value, r) := by
  cases leaf with
  | text cs shown =>
    obtain ⟨r, hr, hrest⟩ := hs.exists_skipSpace_eq (by decide)
    refine ⟨r, hrest, ?_⟩
    rw [hr, readValue, readWord?_cons (by decide), List.append_assoc, List.singleton_append,
      readText_append_quote shown]
    rfl
  | number n lt =>
    obtain ⟨d, ds, hd⟩ := List.exists_cons_of_ne_nil (Nat.toDigits_ne_nil (b := 10) (n := n))
    have hdigit : d.isDigit = true := isDigit_of_mem_toDigits d (hd ▸ List.mem_cons_self)
    have hspace : isSpace d = false := by
      rw [Bool.eq_false_iff]
      intro hd
      simp only [isSpace, Bool.or_eq_true, beq_iff_eq] at hd
      rcases hd with ((rfl | rfl) | rfl) | rfl
      all_goals exact absurd hdigit (by decide)
    rw [token, hd] at hs
    obtain ⟨r, hr, hrest⟩ := hs.exists_skipSpace_eq hspace
    refine ⟨r, hrest, ?_⟩
    rw [hr, ← List.cons_append, ← hd]
    exact readValue_toDigits_append lt (hrest.endsNumber hts) fuel nesting

/-! ## Objects -/

/-- A member of an object. -/
structure Member where
  name : List Char
  leaf : Leaf
  name_shown : ∀ c ∈ name, IsShownAsIs c

namespace Member

variable (m : Member)

/-- The tokens of a member. -/
def tokens : List (List Char) := [quote m.name, [':'], m.leaf.token]

/-- The fields with the value of the member set. -/
def addTo (fields : List (String × Json)) : List (String × Json) :=
  setField (String.ofList m.name) m.leaf.value fields

/-- Behind a member either a comma leads to the next fields, or the brace ends them. -/
theorem exists_readFields_eq {c : Char} (hc : c = ',' ∨ c = '\x7d') {s : List Char}
    {ts : List (List Char)} (hs : Spaced (m.tokens ++ [c] :: ts) s) (fuel nesting : Nat)
    (before : List (String × Json)) :
    ∃ r, Spaced ts r ∧ readFields (fuel + 2) nesting before (skipSpace s) =
      if c = ',' then readFields (fuel + 1) nesting (m.addTo before) (skipSpace r)
      else .ok (m.addTo before, r) := by
  have hcloses : Closes ([c] :: ts) := by
    rcases hc with rfl | rfl
    all_goals simp [Closes]
  have hspace : isSpace c = false := by
    rcases hc with rfl | rfl
    all_goals decide
  obtain ⟨r₁, hquote, hname⟩ := hs.exists_skipSpace_eq (by decide)
  obtain ⟨r₂, hcolon, hvalue⟩ := hname.exists_skipSpace_eq (by decide)
  obtain ⟨r₃, hmark, hread⟩ := m.leaf.exists_readValue hvalue hcloses fuel nesting
  obtain ⟨r, hbehind, hrest⟩ := hmark.exists_skipSpace_eq hspace
  refine ⟨r, hrest, ?_⟩
  rw [hquote, readFields, List.append_assoc, List.singleton_append,
    readText_append_quote m.name_shown, ok_bind]
  dsimp only
  rw [hcolon, List.nil_append]
  change (readValue (fuel + 1) nesting (skipSpace r₂) >>= _) = _
  rw [hread, ok_bind]
  dsimp only
  rw [hbehind]
  rcases hc with rfl | rfl
  all_goals rfl

end Member

/-- The tokens of several values with commas between them. -/
def punctuated : List (List (List Char)) → List (List Char)
  | [] => []
  | t :: ts => t ++ ts.flatMap ([','] :: ·)

/-- The object with these members. -/
def objectOf (members : List Member) : Json :=
  .object (members.foldl (fun fields m => m.addTo fields) [])

/-- The tokens of an object. -/
def objectTokens (members : List Member) : List (List Char) :=
  ['\x7b'] :: (punctuated (members.map Member.tokens) ++ [['\x7d']])

theorem punctuated_cons_cons (t t' : List (List Char)) (ts : List (List (List Char))) :
    punctuated (t :: t' :: ts) = t ++ [','] :: punctuated (t' :: ts) := by
  simp [punctuated]

theorem nil_not_mem_punctuated {ts : List (List (List Char))} (hts : ∀ t ∈ ts, [] ∉ t) :
    [] ∉ punctuated ts := by
  cases ts with
  | nil => exact List.not_mem_nil
  | cons t ts =>
    obtain ⟨ht, hts⟩ := List.forall_mem_cons.1 hts
    rw [punctuated, List.mem_append, List.mem_flatMap]
    rintro (hfirst | ⟨t', ht', hrest⟩)
    · exact ht hfirst
    · exact hts t' ht' (List.mem_of_ne_of_mem (List.cons_ne_nil _ _).symm hrest)

theorem Leaf.token_ne_nil (leaf : Leaf) : leaf.token ≠ [] := by
  cases leaf with
  | text cs shown => exact List.cons_ne_nil _ _
  | number n lt => exact Nat.toDigits_ne_nil

theorem Member.nil_not_mem_tokens (m : Member) : [] ∉ m.tokens := by
  have htoken := m.leaf.token_ne_nil
  simp [tokens, quote, Ne.symm htoken]

theorem nil_not_mem_objectTokens (members : List Member) : [] ∉ objectTokens members := by
  have hmembers : [] ∉ punctuated (members.map Member.tokens) :=
    nil_not_mem_punctuated (List.forall_mem_map.2 fun m _ => m.nil_not_mem_tokens)
  simpa [objectTokens] using hmembers

/-- There are more tokens than members. -/
theorem length_le_length_objectTokens (members : List Member) :
    members.length + 2 ≤ (objectTokens members).length := by
  have hmembers : members.length ≤ (punctuated (members.map Member.tokens)).length := by
    cases members with
    | nil => exact Nat.zero_le _
    | cons m ms =>
      induction ms generalizing m with
      | nil => exact Nat.le_add_left 1 2
      | cons m' ms ih =>
        have hrest := ih m'
        simp only [List.map_cons, punctuated_cons_cons, List.length_append, List.length_cons]
          at hrest ⊢
        omega
  simp only [objectTokens, List.length_cons, List.length_append, List.length_nil]
  omega

theorem exists_readFields (m : Member) (ms : List Member) {s : List Char}
    {ts : List (List Char)}
    (hs : Spaced (punctuated ((m :: ms).map Member.tokens) ++ ['\x7d'] :: ts) s)
    {fuel : Nat} (hfuel : ms.length + 2 ≤ fuel) (nesting : Nat) (before : List (String × Json)) :
    ∃ r, Spaced ts r ∧ readFields fuel nesting before (skipSpace s) =
      .ok ((m :: ms).foldl (fun fields m => m.addTo fields) before, r) := by
  obtain ⟨fuel, rfl⟩ : ∃ fuel', fuel = fuel' + 2 := ⟨fuel - 2, by omega⟩
  induction ms generalizing m s fuel before with
  | nil =>
    have htokens : punctuated ([m].map Member.tokens) ++ ['\x7d'] :: ts =
        m.tokens ++ ['\x7d'] :: ts := rfl
    rw [htokens] at hs
    obtain ⟨r, hrest, hread⟩ := m.exists_readFields_eq (.inr rfl) hs fuel nesting before
    exact ⟨r, hrest, hread.trans (if_neg (by decide))⟩
  | cons m' ms ih =>
    rw [List.map_cons, List.map_cons, punctuated_cons_cons, List.append_assoc,
      List.cons_append, ← List.map_cons] at hs
    obtain ⟨r, hrest, hread⟩ := m.exists_readFields_eq (.inl rfl) hs fuel nesting before
    obtain ⟨fuel, rfl⟩ : ∃ fuel', fuel = fuel' + 1 :=
      ⟨fuel - 1, by rw [List.length_cons] at hfuel; omega⟩
    obtain ⟨r', hend, hfields⟩ := ih m' hrest (m.addTo before) fuel
      (by rw [List.length_cons] at hfuel; omega)
    exact ⟨r', hend, hread.trans ((if_pos rfl).trans hfields)⟩

theorem exists_readValue_object (members : List Member) {s : List Char}
    {ts : List (List Char)} (hs : Spaced (objectTokens members ++ ts) s) {fuel : Nat}
    (hfuel : members.length + 2 ≤ fuel) (nesting : Nat) :
    ∃ r, Spaced ts r ∧
      readValue fuel (nesting + 1) (skipSpace s) = .ok (objectOf members, r) := by
  obtain ⟨fuel, rfl⟩ : ∃ fuel', fuel = fuel' + 1 := ⟨fuel - 1, by omega⟩
  rw [objectTokens, List.cons_append, List.append_assoc] at hs
  obtain ⟨r, hopen, hr⟩ := hs.exists_skipSpace_eq (by decide)
  rw [hopen, readValue, readWord?_cons (by decide)]
  cases members with
  | nil =>
    obtain ⟨r', hclose, hrest⟩ := hr.exists_skipSpace_eq (by decide)
    refine ⟨r', hrest, ?_⟩
    rw [List.nil_append, hclose]
    rfl
  | cons m ms =>
    have hmembers : ms.length + 2 ≤ fuel := by
      rw [List.length_cons] at hfuel
      omega
    obtain ⟨r', hrest, hfields⟩ := exists_readFields m ms hr hmembers nesting []
    obtain ⟨q, hname, -⟩ := hr.exists_skipSpace_eq (by decide)
    refine ⟨r', hrest, ?_⟩
    rw [hname] at hfields
    rw [List.nil_append, hname]
    change (readFields fuel nesting [] _ >>= _) = _
    rw [hfields]
    rfl

/-! ## Arrays of objects -/

/-- The tokens of an array of objects. -/
def arrayTokens (items : List (List Member)) : List (List Char) :=
  ['['] :: (punctuated (items.map objectTokens) ++ [[']']])

theorem exists_readItems (item : List Member) (items : List (List Member)) {s : List Char}
    {ts : List (List Char)}
    (hs : Spaced (punctuated ((item :: items).map objectTokens) ++ [']'] :: ts) s) {fuel : Nat}
    (hfuel : (punctuated ((item :: items).map objectTokens)).length + 1 ≤ fuel) (nesting : Nat) :
    ∃ r, Spaced ts r ∧ readItems fuel (nesting + 1) (skipSpace s) =
      .ok ((item :: items).map objectOf, r) := by
  obtain ⟨fuel, rfl⟩ : ∃ fuel', fuel = fuel' + 1 := ⟨fuel - 1, by omega⟩
  induction items generalizing item s fuel with
  | nil =>
    have hmembers := length_le_length_objectTokens item
    have htokens : punctuated ([item].map objectTokens) = objectTokens item :=
      List.append_nil _
    rw [htokens] at hs hfuel
    have hitem : item.length + 2 ≤ fuel := by omega
    obtain ⟨r, hr, hread⟩ := exists_readValue_object item hs hitem nesting
    obtain ⟨r', hclose, hrest⟩ := hr.exists_skipSpace_eq (by decide)
    refine ⟨r', hrest, ?_⟩
    rw [readItems, hread, ok_bind]
    dsimp only
    rw [hclose]
    rfl
  | cons item' items ih =>
    have hmembers := length_le_length_objectTokens item
    rw [List.map_cons, List.map_cons, punctuated_cons_cons, List.length_append,
      List.length_cons, ← List.map_cons] at hfuel
    rw [List.map_cons, List.map_cons, punctuated_cons_cons, List.append_assoc,
      List.cons_append, ← List.map_cons] at hs
    obtain ⟨fuel, rfl⟩ : ∃ fuel', fuel = fuel' + 1 := ⟨fuel - 1, by omega⟩
    have hitem : item.length + 2 ≤ fuel + 1 := by omega
    obtain ⟨r, hr, hread⟩ := exists_readValue_object item hs hitem nesting
    obtain ⟨r', hcomma, hrest⟩ := hr.exists_skipSpace_eq (by decide)
    obtain ⟨r'', hend, hitems⟩ := ih item' hrest fuel (by omega)
    refine ⟨r'', hend, ?_⟩
    rw [readItems, hread, ok_bind]
    dsimp only
    rw [hcomma, List.nil_append]
    change (readItems (fuel + 1) (nesting + 1) (skipSpace r') >>= _) = _
    rw [hitems]
    rfl

theorem exists_readValue_array (items : List (List Member)) {s : List Char}
    {ts : List (List Char)} (hs : Spaced (arrayTokens items ++ ts) s) {fuel : Nat}
    (hfuel : (arrayTokens items).length ≤ fuel) (nesting : Nat) :
    ∃ r, Spaced ts r ∧
      readValue fuel (nesting + 2) (skipSpace s) = .ok (.array (items.map objectOf), r) := by
  rw [arrayTokens, List.length_cons, List.length_append, List.length_singleton] at hfuel
  obtain ⟨fuel, rfl⟩ : ∃ fuel', fuel = fuel' + 1 := ⟨fuel - 1, by omega⟩
  rw [arrayTokens, List.cons_append, List.append_assoc] at hs
  obtain ⟨r, hopen, hr⟩ := hs.exists_skipSpace_eq (by decide)
  rw [hopen, readValue, readWord?_cons (by decide)]
  cases items with
  | nil =>
    obtain ⟨r', hclose, hrest⟩ := hr.exists_skipSpace_eq (by decide)
    refine ⟨r', hrest, ?_⟩
    rw [List.nil_append, hclose]
    rfl
  | cons item items =>
    have hrest : (punctuated ((item :: items).map objectTokens)).length + 1 ≤ fuel := by omega
    obtain ⟨r', hrest, hitems⟩ := exists_readItems item items hr hrest nesting
    obtain ⟨q, hobject, -⟩ := hr.exists_skipSpace_eq (by decide)
    refine ⟨r', hrest, ?_⟩
    rw [hobject] at hitems
    rw [List.nil_append, hobject]
    change (readItems fuel (nesting + 1) _ >>= _) = _
    rw [hitems]
    rfl

/-! ## Whole texts -/

/-- A text is read as the value that it begins with, if nothing but blanks is left. -/
theorem read_of_readValue {s : List Char} {maxNesting : Nat} {v : Json}
    (hread : ∃ r, Spaced [] r ∧
      readValue (2 * s.length + 2) maxNesting (skipSpace s) = .ok (v, r)) :
    read s maxNesting = .ok v := by
  obtain ⟨r, hr, hread⟩ := hread
  rw [read, hread]
  change (if (skipSpace r).isEmpty = true then _ else _) = _
  rw [hr.skipSpace_eq_nil]
  rfl

/-- However an object is spaced, it is read where anything may be nested. -/
theorem read_of_spaced_object {members : List Member} {s : List Char}
    (hs : Spaced (objectTokens members) s) {maxNesting : Nat} (hnesting : 1 ≤ maxNesting) :
    read s maxNesting = .ok (objectOf members) := by
  obtain ⟨nesting, rfl⟩ := Nat.exists_eq_add_of_le' hnesting
  have hmembers := length_le_length_objectTokens members
  have hlength := hs.length_le (nil_not_mem_objectTokens members)
  rw [← List.append_nil (objectTokens members)] at hs
  exact read_of_readValue (exists_readValue_object members hs (by omega) nesting)

/-- However an array of objects is spaced, it is read where an array may enclose objects. -/
theorem read_of_spaced_array {items : List (List Member)} {s : List Char}
    (hs : Spaced (arrayTokens items) s) {maxNesting : Nat} (hnesting : 2 ≤ maxNesting) :
    read s maxNesting = .ok (.array (items.map objectOf)) := by
  obtain ⟨nesting, rfl⟩ := Nat.exists_eq_add_of_le' hnesting
  have hitems : [] ∉ punctuated (items.map objectTokens) :=
    nil_not_mem_punctuated (List.forall_mem_map.2 fun item _ => nil_not_mem_objectTokens item)
  have hlength := hs.length_le (by simpa [arrayTokens] using hitems)
  rw [← List.append_nil (arrayTokens items)] at hs
  exact read_of_readValue (exists_readValue_array items hs (by omega) nesting)

end HostReport.Json
