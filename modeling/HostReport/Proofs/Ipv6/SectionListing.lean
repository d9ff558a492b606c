import HostReport.Proofs.Ipv6.Listing
import HostReport.Proofs.Text.Line
import HostReport.Proofs.Text.Search

/-!
# Listings in sections

Such a listing has a section for each interface: a heading with the number and the name of the
interface, and under it a line for each address.  Reading it, a section counts if its heading holds
the name that is asked for, in either case (`SectionHead.Holds`).  So the section of that name
counts, but one of a longer name counts as well.  What is told is the length of the section of that
name, whatever the addresses, exactly if no other heading holds the name.
-/

namespace HostReport.Ipv6

open Text

/-- The word before the number of an interface. -/
def headingWord : String := "Interface "

/-- The word before an address of a section. -/
def addressMark : String := "Address"

/-- The word behind an address of a section. -/
def parametersMark : String := "Parameters"

/-- The heading of a section: number and name of an interface. -/
structure SectionHead where
  index : Nat
  name : List Char
  name_oneLine : ∀ c ∈ name, isLineBreak c = false

namespace SectionHead

variable (head : SectionHead) (interface : List Char)

/-- The heading without its last colon. -/
def text : List Char :=
  headingWord.toList ++ (Nat.toDigits 10 head.index ++ ':' :: ' ' :: head.name)

/-- Whether the section is that of the interface, letters counting the same in either case. -/
def IsNamed : Prop := lower head.name = lower interface

/-- Whether the heading holds the name of the interface, in either case. -/
def Holds : Prop := lower interface <:+: lower head.text

instance : Decidable (head.IsNamed interface) := inferInstanceAs (Decidable (_ = _))

instance : Decidable (head.Holds interface) := inferInstanceAs (Decidable (_ <:+: _))

end SectionHead

/-- A section with the addresses of an interface, a line for each, behind blanks. -/
structure ListingSection where
  head : SectionHead
  indent : List Char
  addresses : List ListedAddress
  indent_blank : ∀ c ∈ indent, isBlank c = true
  indent_oneLine : ∀ c ∈ indent, isLineBreak c = false

/-- An address in its section, without what stands before it in the line. -/
def ListedAddress.marked (a : ListedAddress) : List Char :=
  addressMark.toList ++ ' ' :: (a.shown ++ ' ' :: parametersMark.toList)

/-- The lines of a section. -/
def ListingSection.lines (s : ListingSection) : List (List Char) :=
  (s.head.text ++ [':']) :: s.addresses.map fun a => s.indent ++ a.marked

/-- The lengths of the addresses that count as global in the sections of some headings. -/
def lengthsUnder (p : SectionHead → Prop) [DecidablePred p] (sections : List ListingSection) :
    List Nat :=
  lengthsOfPublic ((sections.filter fun s => p s.head).flatMap ListingSection.addresses)

/-! ## Lines -/

theorem isLineBreak_of_isHexOrColon {c : Char} (hc : isHexOrColon c = true) :
    isLineBreak c = false := by
  simp only [isHexOrColon, Bool.or_eq_true, Bool.and_eq_true, decide_eq_true_eq] at hc
  simp only [isLineBreak, Bool.or_eq_false_iff, Bool.and_eq_false_iff, decide_eq_false_iff_not,
    beq_eq_false_iff_ne]
  omega

theorem SectionHead.text_ne_nil (head : SectionHead) : head.text ≠ [] :=
  List.append_ne_nil_of_left_ne_nil (by decide) _

theorem SectionHead.text_oneLine (head : SectionHead) : ∀ c ∈ head.text, isLineBreak c = false := by
  have hword : ∀ c ∈ headingWord.toList, isLineBreak c = false := by decide
  intro c hc
  rw [text, List.mem_append, List.mem_append, List.mem_cons, List.mem_cons] at hc
  rcases hc with hfront | hdigit | rfl | rfl | hname
  · exact hword c hfront
  · exact isLineBreak_of_isHexOrColon
      (isHexOrColon_of_isDigit (Numeral.isDigit_of_mem_toDigits c hdigit))
  · decide
  · decide
  · exact head.name_oneLine c hname

theorem ListedAddress.getLast?_marked (a : ListedAddress) : a.marked.getLast? = some 's' := by
  have hlast : parametersMark.toList.getLast? = some 's' := by decide
  simp [marked, List.getLast?_append, List.getLast?_cons, hlast]

theorem ListedAddress.marked_oneLine (a : ListedAddress) :
    ∀ c ∈ a.marked, isLineBreak c = false := by
  have haddress : ∀ c ∈ addressMark.toList, isLineBreak c = false := by decide
  have hparameters : ∀ c ∈ parametersMark.toList, isLineBreak c = false := by decide
  intro c hc
  rw [marked, List.mem_append, List.mem_cons, List.mem_append, List.mem_cons] at hc
  rcases hc with hfront | rfl | hshown | rfl | hback
  · exact haddress c hfront
  · decide
  · rcases a.forall_mem_shown c hshown with hhex | rfl
    · exact isLineBreak_of_isHexOrColon hhex
    · decide
  · decide
  · exact hparameters c hback

namespace ListingSection

variable (s : ListingSection)

theorem lines_oneLine : ∀ l ∈ s.lines, ∀ c ∈ l, isLineBreak c = false := by
  intro l hl c hc
  rw [lines, List.mem_cons, List.mem_map] at hl
  rcases hl with rfl | ⟨a, -, rfl⟩
  · rcases List.mem_append.1 hc with hhead | hcolon
    · exact s.head.text_oneLine c hhead
    · obtain rfl : c = ':' := List.mem_singleton.1 hcolon
      decide
  · rcases List.mem_append.1 hc with hindent | hmarked
    · exact s.indent_oneLine c hindent
    · exact a.marked_oneLine c hmarked

theorem nil_not_mem_lines : [] ∉ s.lines := by
  have hmark : addressMark.toList ≠ [] := by decide
  intro hl
  rw [lines, List.mem_cons, List.mem_map] at hl
  rcases hl with hhead | ⟨a, -, hmarked⟩
  · exact absurd hhead.symm (List.append_ne_nil_of_right_ne_nil _ (List.cons_ne_nil _ _))
  · have hall := (List.append_eq_nil_iff.1 hmarked).2
    exact hmark (List.append_eq_nil_iff.1 hall).1

end ListingSection

/-- A listing has the lines that its sections were written in. -/
theorem lines_of_isWrittenAs {sections : List ListingSection} {text : List Char}
    (htext : IsWrittenAs text (sections.flatMap ListingSection.lines)) :
    Text.lines text = sections.flatMap ListingSection.lines := by
  refine htext.lines_eq (fun l hl => ?_) fun hnil => ?_
  · obtain ⟨s, -, hl⟩ := List.mem_flatMap.1 hl
    exact s.lines_oneLine l hl
  · obtain ⟨s, -, hnil⟩ := List.mem_flatMap.1 hnil
    exact s.nil_not_mem_lines hnil

/-! ## Reading -/

section

variable (interface : List Char) (rest : List (List Char))

/-- A heading opens its section, whatever section it ends. -/
theorem ofSections_heading (head : SectionHead) (current : List Char) :
    ofSections interface current ((head.text ++ [':']) :: rest) =
      ofSections interface head.text rest := by
  have htrim : Text.strip (head.text ++ [':']) = head.text ++ [':'] := by
    refine trim_eq_self (fun c hc => ?_) fun c hc => ?_
    · have hfirst : (head.text ++ [':']).head? = some 'I' := rfl
      obtain rfl : 'I' = c := Option.some.inj (hfirst.symm.trans hc)
      decide
    · rw [List.getLast?_concat] at hc
      obtain rfl : ':' = c := Option.some.inj hc
      decide
  rw [ofSections, htrim, List.getLast?_concat, List.dropLast_concat]
  rfl

/-- Of the line of an address the scanner finds the address. -/
theorem findFirst_slashPair_marked (a : ListedAddress) :
    Scan.findFirst slashPair a.marked = some a.pair := by
  have hmark : Scan.findFirst slashPair addressMark.toList = none := by decide
  have hspace : slashPair (' ' :: (a.shown ++ ' ' :: parametersMark.toList)) = none :=
    Scan.bind_of_none (Scan.run1_eq_none (by simp; decide))
  have hread := a.slashPair_shown_append (s := ' ' :: parametersMark.toList) (by simp; decide)
  have hne := List.append_ne_nil_of_left_ne_nil a.shown_ne_nil (' ' :: parametersMark.toList)
  rw [ListedAddress.marked, Scan.findFirst_append ((endsAt_slashPair (by simp)).cuts _), hmark,
    Option.none_or, Scan.findFirst_cons_of_none hspace, Scan.findFirst_of_some hne hread]

/-- A line of an address, without the blanks around it, is the address as it is marked. -/
theorem strip_indent_append_marked {indent : List Char} (hindent : ∀ c ∈ indent, isBlank c = true)
    (a : ListedAddress) : Text.strip (indent ++ a.marked) = a.marked := by
  rw [Text.strip, trim_append_of_forall hindent]
  refine trim_eq_self (fun c hc => ?_) fun c hc => ?_
  · have hfirst : a.marked.head? = some 'A' := rfl
    obtain rfl : 'A' = c := Option.some.inj (hfirst.symm.trans hc)
    decide
  · rw [a.getLast?_marked] at hc
    obtain rfl : 's' = c := Option.some.inj hc
    decide

variable {interface rest} in
/-- The line of an address in a section whose heading does not hold the name is passed over. -/
theorem ofSections_marked_of_not_holds {head : SectionHead} {indent : List Char}
    (hindent : ∀ c ∈ indent, isBlank c = true) (hhead : ¬head.Holds interface)
    (a : ListedAddress) :
    ofSections interface head.text ((indent ++ a.marked) :: rest) =
      ofSections interface head.text rest := by
  have hcontains : contains (lower interface) (lower head.text) = false :=
    Bool.eq_false_iff.2 (mt (contains_eq_true_iff _ _).1 hhead)
  rw [ofSections, strip_indent_append_marked hindent, a.getLast?_marked, hcontains]
  simp

variable {interface rest} in
/-- In a section whose heading holds the name the line of an address decides, or what follows it
does. -/
theorem ofSections_marked_of_holds {head : SectionHead} {indent : List Char}
    (hindent : ∀ c ∈ indent, isBlank c = true) (hhead : head.Holds interface)
    (a : ListedAddress) {ns : List Nat}
    (hrest : ofSections interface head.text rest = firstOfUse ns) :
    ofSections interface head.text ((indent ++ a.marked) :: rest) =
      firstOfUse (lengthsOfPublic [a] ++ ns) := by
  have hcontains : contains (lower interface) (lower head.text) = true :=
    (contains_eq_true_iff _ _).2 hhead
  have haddress : contains "Address".toList a.marked = true :=
    (contains_eq_true_iff _ _).2 (List.prefix_append _ _).isInfix
  have hparameters : contains "Parameters".toList a.marked = true := by
    refine (contains_eq_true_iff _ _).2 (List.IsSuffix.isInfix ?_)
    exact ⟨addressMark.toList ++ ' ' :: (a.shown ++ [' ']),
      by simp [ListedAddress.marked, parametersMark]⟩
  have hfound : firstPublic (Scan.findFirst slashPair a.marked).toList =
      firstOfUse (lengthsOfPublic [a]) := by
    rw [findFirst_slashPair_marked]
    exact firstPublic_map_pair [a]
  have hopen : head.text.isEmpty = false := List.isEmpty_eq_false_iff.2 head.text_ne_nil
  rw [ofSections, strip_indent_append_marked hindent, a.getLast?_marked, hcontains, hopen,
    haddress, hparameters, hfound]
  exact firstOfUse_append_bind hrest

/-- A section is read line by line, if its heading holds the name, and is passed over otherwise;
what is behind it does not see it. -/
theorem ofSections_lines_append (s : ListingSection) (current : List Char) {ns : List Nat}
    (hrest : ∀ current, ofSections interface current rest = firstOfUse ns) :
    ofSections interface current (s.lines ++ rest) =
      firstOfUse ((if s.head.Holds interface then lengthsOfPublic s.addresses else []) ++ ns) := by
  rw [ListingSection.lines, List.cons_append, ofSections_heading]
  by_cases hhead : s.head.Holds interface
  · rw [if_pos hhead]
    induction s.addresses with
    | nil => exact hrest s.head.text
    | cons a as ih =>
      rw [List.map_cons, List.cons_append,
        ofSections_marked_of_holds s.indent_blank hhead a ih, ← List.append_assoc,
        ← lengthsOfPublic_append]
      rfl
  · rw [if_neg hhead]
    induction s.addresses with
    | nil => exact hrest s.head.text
    | cons a as ih =>
      rw [List.map_cons, List.cons_append, ofSections_marked_of_not_holds s.indent_blank hhead, ih]

end

/-! ## Whole listings -/

theorem lengthsUnder_cons (p : SectionHead → Prop) [DecidablePred p] (s : ListingSection)
    (sections : List ListingSection) :
    lengthsUnder p (s :: sections) =
      (if p s.head then lengthsOfPublic s.addresses else []) ++ lengthsUnder p sections := by
  rw [lengthsUnder, List.filter_cons]
  by_cases hs : p s.head
  · rw [if_pos (decide_eq_true hs), if_pos hs, List.flatMap_cons, lengthsOfPublic_append]
    rfl
  · rw [if_neg (mt of_decide_eq_true hs), if_neg hs]
    rfl

theorem ofSections_flatMap_lines (interface current : List Char)
    (sections : List ListingSection) :
    ofSections interface current (sections.flatMap ListingSection.lines) =
      firstOfUse (lengthsUnder (·.Holds interface) sections) := by
  induction sections generalizing current with
  | nil => rfl
  | cons s sections ih =>
    rw [List.flatMap_cons, ofSections_lines_append interface _ s current ih, lengthsUnder_cons]

/-- The sections whose heading holds the name tell the first length of use of a global address. -/
theorem ofSectionListing_eq {sections : List ListingSection} {text : List Char}
    (htext : IsWrittenAs text (sections.flatMap ListingSection.lines)) (interface : String) :
    ofSectionListing (String.ofList text) interface =
      firstOfUse (lengthsUnder (·.Holds interface.toList) sections) := by
  rw [ofSectionListing, String.toList_ofList, lines_of_isWrittenAs htext, ofSections_flatMap_lines]

theorem SectionHead.IsNamed.holds {head : SectionHead} {interface : List Char}
    (h : head.IsNamed interface) : head.Holds interface := by
  have hsuffix := lower_suffix_lower
    (headingWord.toList ++ (Nat.toDigits 10 head.index ++ [':'])) head.name
  have hname : lower head.name = lower interface := h
  rw [Holds, ← hname, text]
  simpa using hsuffix.isInfix

/-- Where only the section of an interface holds its name, only that section counts. -/
theorem lengthsUnder_holds_of_forall {sections : List ListingSection} {interface : List Char}
    (hnamed : ∀ s ∈ sections, s.head.Holds interface → s.head.IsNamed interface) :
    lengthsUnder (·.Holds interface) sections = lengthsUnder (·.IsNamed interface) sections := by
  have hsame : ∀ s ∈ sections,
      decide (s.head.Holds interface) = decide (s.head.IsNamed interface) :=
    fun s hs => decide_eq_decide.2 ⟨hnamed s hs, SectionHead.IsNamed.holds⟩
  rw [lengthsUnder, lengthsUnder, List.filter_congr hsame]

theorem mem_lengthsUnder_iff {p : SectionHead → Prop} [DecidablePred p]
    {sections : List ListingSection} {n : Nat} :
    n ∈ lengthsUnder p sections ↔
      ∃ s ∈ sections, p s.head ∧ ∃ a ∈ s.addresses, a.IsPublic ∧ a.length = n := by
  simp only [lengthsUnder, mem_lengthsOfPublic_iff, List.mem_flatMap, List.mem_filter,
    decide_eq_true_eq]
  constructor
  · rintro ⟨a, ⟨s, ⟨hs, hp⟩, ha⟩, hlength⟩
    exact ⟨s, hs, hp, a, ha, hlength⟩
  · rintro ⟨s, hs, hp, a, ha, hlength⟩
    exact ⟨a, ⟨s, ⟨hs, hp⟩, ha⟩, hlength⟩

/-- A section under the same heading: with a global address, if it is that of another interface, and
else with none. -/
def ListingSection.misleading (interface : List Char) (s : ListingSection) : ListingSection :=
  { s with addresses := if s.head.IsNamed interface then [] else [siteAddress] }

/-- Where another heading holds the name, there are addresses with which that section decides. -/
theorem forall_isNamed_of_misleading {sections : List ListingSection} {interface : List Char}
    (hsame : firstOfUse (lengthsUnder (·.Holds interface) (sections.map (·.misleading interface))) =
      firstOfUse (lengthsUnder (·.IsNamed interface) (sections.map (·.misleading interface)))) :
    ∀ s ∈ sections, s.head.Holds interface → s.head.IsNamed interface := by
  have hnamed :
      lengthsUnder (·.IsNamed interface) (sections.map (·.misleading interface)) = [] := by
    refine List.eq_nil_iff_forall_not_mem.2 fun n hn => ?_
    obtain ⟨s', hs', hs, a, ha, -⟩ := mem_lengthsUnder_iff.1 hn
    obtain ⟨s, -, rfl⟩ := List.mem_map.1 hs'
    have hempty : (s.misleading interface).addresses = [] := if_pos hs
    rw [hempty] at ha
    exact absurd ha List.not_mem_nil
  rw [hnamed, firstOfUse_nil, firstOfUse_eq_none_iff] at hsame
  intro s hs hholds
  by_contra hother
  have hsite : siteAddress ∈ (s.misleading interface).addresses := by
    rw [ListingSection.misleading, if_neg hother]
    exact List.mem_cons_self
  have hfound : siteAddress.length ∈
      lengthsUnder (·.Holds interface) (sections.map (·.misleading interface)) :=
    mem_lengthsUnder_iff.2 ⟨_, List.mem_map_of_mem hs, hholds, siteAddress, hsite, by decide, rfl⟩
  exact (hsame _ hfound).1 (by decide)

/-- The sections whose heading holds the name of an interface decide, the first length of use of a
global address in them.  The section of that name decides alone, whatever addresses stand under the
headings, exactly if no other heading holds the name. -/
theorem ofSectionListing_alone_iff {sections : List ListingSection} {text : List Char}
    (htext : IsWrittenAs text (sections.flatMap ListingSection.lines)) (interface : String) :
    ofSectionListing (String.ofList text) interface =
        firstOfUse (lengthsUnder (·.Holds interface.toList) sections) ∧
      ((∀ sections' text', sections'.map ListingSection.head = sections.map ListingSection.head →
          IsWrittenAs text' (sections'.flatMap ListingSection.lines) →
          ofSectionListing (String.ofList text') interface =
            firstOfUse (lengthsUnder (·.IsNamed interface.toList) sections')) ↔
        ∀ s ∈ sections, s.head.Holds interface.toList → s.head.IsNamed interface.toList) := by
  refine ⟨ofSectionListing_eq htext interface, fun halone => ?_, fun hnamed => ?_⟩
  · have hheads : (sections.map (·.misleading interface.toList)).map ListingSection.head =
        sections.map ListingSection.head := by
      rw [List.map_map]
      rfl
    have hmisleading := halone _ _ hheads (.inl rfl)
    rw [ofSectionListing_eq (.inl rfl)] at hmisleading
    exact forall_isNamed_of_misleading hmisleading
  · intro sections' text' hheads htext'
    have hnamed' : ∀ s ∈ sections', s.head.Holds interface.toList →
        s.head.IsNamed interface.toList := by
      intro s' hs'
      have hmem : s'.head ∈ sections.map ListingSection.head :=
        hheads ▸ List.mem_map_of_mem hs'
      obtain ⟨s, hs, hhead⟩ := List.mem_map.1 hmem
      rw [← hhead]
      exact hnamed s hs
    rw [ofSectionListing_eq htext', lengthsUnder_holds_of_forall hnamed']

/-- A section of an interface with one address. -/
def sectionOf (index : Nat) (name : List Char) (a : ListedAddress)
    (hname : ∀ c ∈ name, isLineBreak c = false) : ListingSection where
  head := ⟨index, name, hname⟩
  indent := [' ', ' ']
  addresses := [a]
  indent_blank := by decide
  indent_oneLine := by decide

/-- A listing of a wired and a wireless interface. -/
def plainSections : List ListingSection :=
  [sectionOf 7 "Wi-Fi".toList siteAddress (by decide),
    sectionOf 12 "Ethernet".toList subnetAddress (by decide)]

/-- A listing in which a virtual interface stands before the wired one that lends it its name. -/
def sharedSections : List ListingSection :=
  [sectionOf 3 "vEthernet (Default Switch)".toList siteAddress (by decide),
    sectionOf 12 "Ethernet".toList subnetAddress (by decide)]

/-- Where only one heading holds the name, the length under it is told, in whatever case the name is
given. -/
theorem ofSectionListing_alone_iff_plainSections :
    IsWrittenAs (unlines (plainSections.flatMap ListingSection.lines))
        (plainSections.flatMap ListingSection.lines) ∧
      ofSectionListing (String.ofList (unlines (plainSections.flatMap ListingSection.lines)))
        "ethernet" = .ok (some 64) := by
  have htext : IsWrittenAs (unlines (plainSections.flatMap ListingSection.lines))
      (plainSections.flatMap ListingSection.lines) := .inl rfl
  have hheads : ∀ s ∈ plainSections, s.head.Holds "ethernet".toList →
      s.head.IsNamed "ethernet".toList := by decide +kernel
  have hlengths : lengthsUnder (·.IsNamed "ethernet".toList) plainSections = [64] := by
    decide +kernel
  have halone := (ofSectionListing_alone_iff htext "ethernet").2.2 hheads _ _ rfl htext
  rw [hlengths] at halone
  exact ⟨htext, halone⟩

/-- A section of a longer name may decide instead. -/
theorem not_ofSectionListing_named :
    ¬∀ (sections : List ListingSection) (text : List Char) (interface : String),
      IsWrittenAs text (sections.flatMap ListingSection.lines) →
      (sections.map fun s => s.head.name).Nodup →
      (∀ s ∈ sections, s.head.name ≠ [] ∧ Text.strip s.head.name = s.head.name) →
      ofSectionListing (String.ofList text) interface =
        firstOfUse (lengthsUnder (·.IsNamed interface.toList) sections) := by
  intro hnamed
  have hwired := hnamed sharedSections _ "Ethernet" (.inl rfl) (by decide +kernel)
    (by decide +kernel)
  have hheld : lengthsUnder (·.Holds "Ethernet".toList) sharedSections = [48, 64] := by
    decide +kernel
  have hown : lengthsUnder (·.IsNamed "Ethernet".toList) sharedSections = [64] := by
    decide +kernel
  rw [ofSectionListing_eq (.inl rfl), hheld, hown] at hwired
  exact absurd (Option.some.inj (Except.ok.inj hwired)) (by decide)

end HostReport.Ipv6
