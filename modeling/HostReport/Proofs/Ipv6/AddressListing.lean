import HostReport.Proofs.Ipv6.Listing

/-!
# Listings of addresses with their scope

Each line of such a listing shows one address.  The scanner finds exactly the addresses of global
scope: it begins with a word that no other part of a line holds, and what it reads it reads within
the line.  What is told is the least length of use of a global address, so the order of the lines
does not matter.
-/

namespace HostReport.Ipv6

open Text

/-- The scopes that a listing shows. -/
inductive AddressScope where
  | global
  | link
  | host
  | site
  deriving DecidableEq

/-- How a scope is written. -/
def AddressScope.word : AddressScope → String
  | .global => "global"
  | .link => "link"
  | .host => "host"
  | .site => "site"

theorem AddressScope.not_prefix_word {scope : AddressScope} (h : scope ≠ .global) :
    ¬"global".toList <+: scope.word.toList := by
  cases scope with
  | global => exact absurd rfl h
  | link => decide
  | host => decide
  | site => decide

theorem AddressScope.not_infix_word (scope : AddressScope) :
    ¬addressWord.toList <:+: scope.word.toList := by
  cases scope with
  | _ => decide

/-- A line of a listing: number and name of an interface, an address with its scope, and the rest.
The name holds no blank, or else not the word that stands before addresses. -/
structure AddressLine where
  index : Nat
  name : List Char
  listed : ListedAddress
  scope : AddressScope
  rest : List Char
  name_silent : (∀ c ∈ name, isBlank c = false) ∨ ¬addressWord.toList <:+: name
  rest_silent : ¬addressWord.toList <:+: rest

namespace AddressLine

variable (l : AddressLine)

/-- The address with its scope. -/
def announcement : List Char :=
  addressWord.toList ++ ' ' :: (l.listed.shown ++ ' ' :: ("scope".toList ++ ' ' ::
    l.scope.word.toList))

/-- The characters of the line. -/
def chars : List Char :=
  Nat.toDigits 10 l.index ++ ':' :: ' ' ::
    (l.name ++ List.replicate 4 ' ' ++ l.announcement ++ ' ' :: l.rest)

/-- Whether the line shows an address of global scope that counts as global, with a length of
use. -/
def IsUseful : Prop := l.scope = .global ∧ l.listed.IsPublic ∧ IsOfUse l.listed.length

instance : DecidablePred IsUseful := fun _ => inferInstanceAs (Decidable (_ ∧ _))

end AddressLine

/-! ## One line -/

namespace AddressLine

variable (l : AddressLine) (more : List Char)

theorem announcement_ne_nil : l.announcement ≠ [] := by
  simp [announcement, addressWord]

/-- Behind the address its scope decides. -/
theorem scopedAddress_announcement_append (s : List Char) :
    scopedAddress (l.announcement ++ ' ' :: s) =
      if l.scope = .global then some (l.listed.pair, ' ' :: s) else none := by
  have hchars : l.announcement ++ ' ' :: s = addressWord.toList ++ ' ' ::
      (l.listed.shown ++ ' ' :: ("scope".toList ++ ' ' :: (l.scope.word.toList ++ ' ' :: s))) := by
    simp [announcement]
  have hgap := Scan.blanks1_space (l.listed.head?_shown_append
    (' ' :: ("scope".toList ++ ' ' :: (l.scope.word.toList ++ ' ' :: s))))
  have hpair := l.listed.slashPair_shown_append
    (s := ' ' :: ("scope".toList ++ ' ' :: (l.scope.word.toList ++ ' ' :: s))) (by simp; decide)
  have hgap' : Scan.blanks1 (' ' :: ("scope".toList ++ ' ' :: (l.scope.word.toList ++ ' ' :: s))) =
      some ([' '], "scope".toList ++ ' ' :: (l.scope.word.toList ++ ' ' :: s)) :=
    Scan.blanks1_space (by simp; decide)
  have hgap'' : Scan.blanks1 (' ' :: (l.scope.word.toList ++ ' ' :: s)) =
      some ([' '], l.scope.word.toList ++ ' ' :: s) := by
    refine Scan.blanks1_space ?_
    cases l.scope with
    | _ => simp [AddressScope.word]; decide
  rw [hchars, scopedAddress, ← addressWord, Scan.bind_of_some (Scan.word_append addressWord _),
    Scan.bind_of_some hgap, Scan.bind_of_some hpair, Scan.bind_of_some hgap',
    Scan.bind_of_some (Scan.word_append "scope" _), Scan.bind_of_some hgap'']
  by_cases hscope : l.scope = .global
  · rw [if_pos hscope, hscope, AddressScope.word,
      Scan.bind_of_some (Scan.word_append "global" _)]
    rfl
  · have hword : Scan.word "global" (l.scope.word.toList ++ ' ' :: s) = none := by
      refine Scan.word_eq_none ?_
      rw [prefix_append_cons_iff (by decide)]
      exact AddressScope.not_prefix_word hscope
    rw [if_neg hscope, Scan.bind_of_none hword]

/-- No reading begins in the name of an interface. -/
theorem findAll_name_append (s : List Char) :
    Scan.findAll scopedAddress (l.name ++ ' ' :: ' ' :: ' ' :: ' ' :: (addressWord.toList ++ s)) =
      Scan.findAll scopedAddress (' ' :: ' ' :: ' ' :: ' ' :: (addressWord.toList ++ s)) := by
  rcases l.name_silent with hblank | hword
  · refine Scan.findAll_append_of_none fun t hne ht => ?_
    by_cases hw : addressWord.toList <+: t
    · -- the word stands in the name, where no blank follows it, or at its end
      obtain ⟨r, rfl⟩ := hw
      rw [List.append_assoc, scopedAddress, ← addressWord,
        Scan.bind_of_some (Scan.word_append addressWord _)]
      cases r with
      | nil =>
        have hgap : Scan.blanks1 (' ' :: ' ' :: ' ' :: ' ' :: (addressWord.toList ++ s)) =
            some (List.replicate 4 ' ', addressWord.toList ++ s) :=
          Scan.run1_append (u := List.replicate 4 ' ') (by decide) (by decide) (by simp; decide)
        have hpair : slashPair (addressWord.toList ++ s) = none :=
          Scan.bind_of_none (Scan.run1_eq_none fun c hc => by
            obtain rfl : 'i' = c := Option.some.inj hc
            decide)
        rw [List.nil_append, Scan.bind_of_some hgap, Scan.bind_of_none hpair]
      | cons d r =>
        have hd : isBlank d = false :=
          hblank d (ht.subset (List.mem_append_right _ List.mem_cons_self))
        exact Scan.bind_of_none (Scan.run1_eq_none (by simpa using hd))
    · refine Scan.bind_of_none (Scan.word_eq_none ?_)
      rwa [prefix_append_cons_iff (by decide)]
  · exact Scan.findAll_append_of_wordless hword (by simp)

/-- A line is passed over up to its address. -/
theorem findAll_chars_append :
    Scan.findAll scopedAddress (l.chars ++ more) =
      Scan.findAll scopedAddress (l.announcement ++ ' ' :: l.rest ++ more) := by
  have hindex : ∀ c ∈ addressWord.toList.head?, c ∉ Nat.toDigits 10 l.index ++ [':', ' '] := by
    intro c hc hmem
    obtain rfl : 'i' = c := Option.some.inj hc
    rcases List.mem_append.1 hmem with hdigit | hcolon
    · exact absurd (Numeral.isDigit_of_mem_toDigits _ hdigit) (by decide)
    · exact absurd hcolon (by decide)
  have hspaces : ∀ c ∈ addressWord.toList.head?, c ∉ List.replicate 4 ' ' := by decide
  have hchars : l.chars ++ more = (Nat.toDigits 10 l.index ++ [':', ' ']) ++
      (l.name ++ (List.replicate 4 ' ' ++ (l.announcement ++ ' ' :: l.rest ++ more))) := by
    simp [chars]
  have hannounced : l.announcement ++ ' ' :: l.rest ++ more = addressWord.toList ++
      (' ' :: (l.listed.shown ++ ' ' :: ("scope".toList ++ ' ' :: l.scope.word.toList)) ++
        ' ' :: l.rest ++ more) := by
    rw [announcement]
    simp
  rw [hchars]
  calc Scan.findAll scopedAddress _
    _ = Scan.findAll scopedAddress
          (l.name ++ (List.replicate 4 ' ' ++ (l.announcement ++ ' ' :: l.rest ++ more))) :=
        Scan.findAll_append_of_head_not_mem hindex (by decide)
    _ = Scan.findAll scopedAddress
          (List.replicate 4 ' ' ++ (l.announcement ++ ' ' :: l.rest ++ more)) := by
        rw [hannounced]
        exact l.findAll_name_append _
    _ = Scan.findAll scopedAddress (l.announcement ++ ' ' :: l.rest ++ more) :=
        Scan.findAll_append_of_head_not_mem hspaces (by decide)

/-- Nothing is read behind the scope. -/
theorem findAll_rest_append :
    Scan.findAll scopedAddress (' ' :: l.rest ++ '\n' :: more) =
      Scan.findAll scopedAddress more := by
  have hrest : ¬addressWord.toList <:+: ' ' :: l.rest := by
    have hcut := infix_append_cons_iff (w := addressWord.toList) (c := ' ') (by decide) (by decide)
      [] l.rest
    rw [List.nil_append] at hcut
    rw [hcut, List.infix_nil]
    exact fun h => h.elim (by decide) l.rest_silent
  have hend : ∀ c ∈ addressWord.toList.head?, c ∉ ['\n'] := by decide
  calc Scan.findAll scopedAddress (' ' :: l.rest ++ '\n' :: more)
    _ = Scan.findAll scopedAddress (['\n'] ++ more) :=
        Scan.findAll_append_of_wordless hrest (by simp)
    _ = Scan.findAll scopedAddress more := Scan.findAll_append_of_head_not_mem hend (by decide)

/-- Where the scope is another one, nothing is read in the line. -/
theorem findAll_announcement_append_of_ne (hscope : l.scope ≠ .global) (s : List Char) :
    Scan.findAll scopedAddress (l.announcement ++ ' ' :: s) =
      Scan.findAll scopedAddress (' ' :: s) := by
  have hread := l.scopedAddress_announcement_append s
  rw [if_neg hscope] at hread
  have hmiddle : ∀ c ∈ addressWord.toList.head?,
      c ∉ "net6 ".toList ++ (l.listed.shown ++ " scope ".toList) := by
    intro c hc hmem
    obtain rfl : 'i' = c := Option.some.inj hc
    rcases List.mem_append.1 hmem with hfront | hmem
    · exact absurd hfront (by decide)
    rcases List.mem_append.1 hmem with hshown | hback
    · exact absurd (l.listed.forall_mem_shown 'i' hshown) (by decide)
    · exact absurd hback (by decide)
  have hchars : l.announcement ++ ' ' :: s = 'i' ::
      (("net6 ".toList ++ (l.listed.shown ++ " scope ".toList)) ++
        (l.scope.word.toList ++ ' ' :: s)) := by
    simp [announcement, addressWord]
  rw [hchars] at hread ⊢
  calc Scan.findAll scopedAddress _
    _ = Scan.findAll scopedAddress (("net6 ".toList ++ (l.listed.shown ++ " scope ".toList)) ++
          (l.scope.word.toList ++ ' ' :: s)) := Scan.findAll_cons_of_none hread
    _ = Scan.findAll scopedAddress (l.scope.word.toList ++ ' ' :: s) :=
        Scan.findAll_append_of_head_not_mem hmiddle (by decide)
    _ = Scan.findAll scopedAddress (' ' :: s) :=
        Scan.findAll_append_of_wordless l.scope.not_infix_word (by simp)

/-- In a line with what follows it an address is found exactly if its scope is global. -/
theorem findAll_line_append :
    Scan.findAll scopedAddress (l.chars ++ '\n' :: more) =
      (if l.scope = .global then [l.listed.pair] else []) ++
        Scan.findAll scopedAddress more := by
  rw [l.findAll_chars_append, List.append_assoc]
  by_cases hscope : l.scope = .global
  · have hread := l.scopedAddress_announcement_append (l.rest ++ '\n' :: more)
    rw [if_pos hscope] at hread ⊢
    rw [List.cons_append, Scan.findAll_append_of_some l.announcement_ne_nil hread]
    exact congrArg _ (l.findAll_rest_append more)
  · rw [if_neg hscope, List.cons_append, l.findAll_announcement_append_of_ne hscope]
    exact l.findAll_rest_append more

end AddressLine

/-- The addresses that are found in a listing are those of global scope, in order. -/
theorem findAll_scopedAddress (lines : List AddressLine) :
    Scan.findAll scopedAddress (unlines (lines.map AddressLine.chars)) =
      ((lines.filter fun l => l.scope = .global).map AddressLine.listed).map
        ListedAddress.pair := by
  induction lines with
  | nil => rfl
  | cons l lines ih =>
    rw [List.map_cons, unlines_cons, l.findAll_line_append, ih, List.filter_cons]
    by_cases hscope : l.scope = .global
    · rw [if_pos hscope, if_pos (decide_eq_true hscope)]
      rfl
    · rw [if_neg hscope, if_neg (mt of_decide_eq_true hscope)]
      rfl

/-- The line feed behind the last line makes no difference. -/
theorem endsAt_scopedAddress : Scan.EndsAt scopedAddress ['\n'] := by
  have hword {w : String} (hw : '\n' ∉ w.toList) : Scan.EndsAt (Scan.word w) ['\n'] :=
    Scan.endsAt_word (by simpa using hw)
  have hscope (pair : List Char × List Char) : Scan.EndsAt (do
      let _ ← Scan.blanks1
      Scan.word "scope"
      let _ ← Scan.blanks1
      Scan.word "global"
      return pair) ['\n'] :=
    Scan.endsAt_run1_bind_of_none (fun _ => (hword (by decide)).bind fun _ =>
      Scan.endsAt_run1_bind_of_none (fun _ => (hword (by decide)).bind fun _ =>
        Scan.endsAt_pure _ _) (fun _ => rfl) fun _ => rfl) (fun _ => rfl) fun _ => rfl
  have hpair : Scan.EndsAt slashPair ['\n'] := endsAt_slashPair (by simp)
  exact (hword (by decide)).bind fun _ =>
    Scan.endsAt_run1_bind_of_none (fun _ => hpair.bind hscope) (fun _ => rfl) fun _ => rfl

/-! ## The least length -/

/-- The lengths of use of the addresses that count as global, if all can be read. -/
theorem publicLengths_map_pair {as : List ListedAddress} (has : ∀ a ∈ as, a.length < 1000) :
    publicLengths (as.map ListedAddress.pair) =
      .ok (((lengthsOfPublic as).filter fun n => IsOfUse n).map Nat.cast) := by
  induction as with
  | nil => rfl
  | cons a as ih =>
    obtain ⟨ha, has⟩ := List.forall_mem_cons.1 has
    have hread := readLength_toDigits_of_not (not_isTooLong_of_lt ha)
    rw [List.map_cons, ListedAddress.pair, publicLengths, ih has, lengthsOfPublic_cons]
    split
    · rw [ListedAddress.digits, hread, List.filter_cons]
      change Except.ok (if isValidLength a.length = true then _ else _) = _
      by_cases huse : IsOfUse a.length
      · rw [if_pos ((isValidLength_natCast_iff _).2 huse), if_pos (decide_eq_true huse)]
        rfl
      · rw [if_neg (mt (isValidLength_natCast_iff _).1 huse), if_neg (mt of_decide_eq_true huse)]
    · rfl

theorem min?_map_natCast (ns : List Nat) :
    (ns.map Nat.cast : List Int).min? = ns.min?.map Nat.cast := by
  induction ns with
  | nil => rfl
  | cons n ns ih =>
    rw [List.map_cons, List.min?_cons, List.min?_cons, ih]
    cases ns.min? with
    | none => rfl
    | some m =>
      simp only [Option.map_some, Option.elim_some, Option.some.injEq]
      omega

theorem min?_eq_of_perm {ns ns' : List Nat} (h : ns.Perm ns') : ns.min? = ns'.min? := by
  refine Option.ext fun n => ?_
  rw [List.min?_eq_some_iff, List.min?_eq_some_iff]
  simp only [h.mem_iff]

/-- The lengths of the lines that are useful. -/
def usefulLengthsOf (lines : List AddressLine) : List Nat :=
  (lines.filter fun l => l.IsUseful).map fun l => l.listed.length

theorem usefulLengthsOf_eq (lines : List AddressLine) :
    usefulLengthsOf lines =
      (lengthsOfPublic ((lines.filter fun l => l.scope = .global).map AddressLine.listed)).filter
        fun n => IsOfUse n := by
  rw [usefulLengthsOf, lengthsOfPublic, List.filter_map, List.filter_map, List.filter_map,
    List.filter_filter, List.filter_filter, List.map_map]
  refine congrArg _ (List.filter_congr fun l _ => ?_)
  rw [Bool.eq_iff_iff, decide_eq_true_eq, AddressLine.IsUseful]
  simp only [Function.comp_apply, Bool.and_eq_true, decide_eq_true_eq]
  constructor
  · rintro ⟨hscope, hpublic, huse⟩
    exact ⟨⟨huse, hpublic⟩, hscope⟩
  · rintro ⟨⟨huse, hpublic⟩, hscope⟩
    exact ⟨hscope, hpublic, huse⟩

/-- A listing tells the least length of its useful lines. -/
theorem ofAddressListing_eq {lines : List AddressLine} {text : List Char}
    (hlength : ∀ l ∈ lines, l.listed.length < 1000)
    (htext : IsWrittenAs text (lines.map AddressLine.chars)) :
    ofAddressListing (String.ofList text) = .ok ((usefulLengthsOf lines).min?.map Nat.cast) := by
  have hglobal : ∀ a ∈ (lines.filter fun l => l.scope = .global).map AddressLine.listed,
      a.length < 1000 := by
    intro a ha
    obtain ⟨l, hl, rfl⟩ := List.mem_map.1 ha
    exact hlength l (List.mem_of_mem_filter hl)
  rw [ofAddressListing, String.toList_ofList,
    Scan.findAll_of_isWrittenAs endsAt_scopedAddress rfl htext, findAll_scopedAddress,
    publicLengths_map_pair hglobal, ← usefulLengthsOf_eq]
  exact congrArg Except.ok (min?_map_natCast _)

/-- What a listing tells is the least length of use among the addresses of global scope that count
as global, whatever the order of its lines. -/
theorem ofAddressListing_least {lines : List AddressLine} {text : List Char}
    (hlength : ∀ l ∈ lines, l.listed.length < 1000)
    (htext : IsWrittenAs text (lines.map AddressLine.chars)) :
    ofAddressListing (String.ofList text) = .ok ((usefulLengthsOf lines).min?.map Nat.cast) ∧
      ∀ (lines' : List AddressLine) (text' : List Char), lines'.Perm lines →
        IsWrittenAs text' (lines'.map AddressLine.chars) →
        ofAddressListing (String.ofList text') = ofAddressListing (String.ofList text) := by
  refine ⟨ofAddressListing_eq hlength htext, fun lines' text' hperm htext' => ?_⟩
  have hlength' : ∀ l ∈ lines', l.listed.length < 1000 := fun l hl => hlength l (hperm.subset hl)
  have hlengths : (usefulLengthsOf lines').Perm (usefulLengthsOf lines) :=
    (hperm.filter _).map _
  rw [ofAddressListing_eq hlength htext, ofAddressListing_eq hlength' htext',
    min?_eq_of_perm hlengths]

/-- A line that shows an address of an interface named like the word before addresses. -/
def sampleLine (a : ListedAddress) (scope : AddressScope) : AddressLine where
  index := 2
  name := addressWord.toList
  listed := a
  scope := scope
  rest := "dynamic noprefixroute".toList
  name_silent := .inl (by decide)
  rest_silent := by decide

/-- A listing with two global addresses and an address of a link between them. -/
def sampleLines : List AddressLine :=
  [sampleLine subnetAddress .global, sampleLine linkLocalAddress .link,
    sampleLine siteAddress .global]

/-- The least length counts wherever its line stands, and the address of the link does not. -/
theorem ofAddressListing_least_sampleLines :
    (∀ l ∈ sampleLines, l.listed.length < 1000) ∧ sampleLines.reverse.Perm sampleLines ∧
      ofAddressListing (String.ofList (unlines (sampleLines.map AddressLine.chars))) =
        .ok (some 48) ∧
      ofAddressListing (String.ofList (unlines (sampleLines.reverse.map AddressLine.chars))) =
        .ok (some 48) := by
  have hlength : ∀ l ∈ sampleLines, l.listed.length < 1000 := by decide
  have hperm := List.reverse_perm sampleLines
  have htext (lines : List AddressLine) :
      IsWrittenAs (unlines (lines.map AddressLine.chars)) (lines.map AddressLine.chars) := .inl rfl
  obtain ⟨hleast, hany⟩ := ofAddressListing_least hlength (htext _)
  have hlengths : usefulLengthsOf sampleLines = [64, 48] := by decide
  rw [hlengths] at hleast
  exact ⟨hlength, hperm, hleast, (hany _ _ hperm (htext _)).trans hleast⟩

end HostReport.Ipv6
