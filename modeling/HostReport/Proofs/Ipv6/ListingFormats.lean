import HostReport.Proofs.Ipv6.Listing
import HostReport.Proofs.Json.Spaced

/-!
# One listing in three formats

A dump of advertisements, the listing of an interface and a JSON listing show addresses with their
lengths each in its own way.  Shown in any of the three, the same addresses tell the same: the first
length of use of an address that counts as global.
-/

namespace HostReport.Ipv6

open Text

/-! ## Dumps of advertisements -/

/-- The word before a prefix in a dump. -/
def prefixWord : String := "prefix"

/-- A prefix in a dump with what follows it up to the next one. -/
structure DumpBlock where
  listed : ListedAddress
  body : List Char
  body_head : ∀ c ∈ body.head?, isDecimal c = false
  body_slashless : '/' ∉ body

/-- How it is shown. -/
def DumpBlock.text (b : DumpBlock) : List Char :=
  prefixWord.toList ++ ' ' :: (b.listed.shown ++ b.body)

theorem slashPair_of_slashless {s : List Char} (hs : '/' ∉ s) : slashPair s = none := by
  cases haddress : Scan.run1 isHexOrColon s with
  | none => exact Scan.bind_of_none haddress
  | some x =>
    have hslash : Scan.word "/" x.2 = none := by
      refine Scan.word_eq_none fun hfirst => ?_
      exact hs ((Scan.suffix_of_run1 haddress).subset (hfirst.subset List.mem_cons_self))
    rw [slashPair, Scan.bind_of_some haddress, Scan.bind_of_none hslash]

theorem dumpedPrefix_of_slashless {s : List Char} (hs : '/' ∉ s) : dumpedPrefix s = none := by
  cases hword : Scan.caseless "prefix" s with
  | none => exact Scan.bind_of_none hword
  | some x =>
    rw [dumpedPrefix, Scan.bind_of_some hword]
    cases hgap : Scan.blanks1 x.2 with
    | none => exact Scan.bind_of_none hgap
    | some y =>
      have hrest : '/' ∉ y.2 := fun hmem =>
        hs ((Scan.suffix_of_caseless hword).subset ((Scan.suffix_of_run1 hgap).subset hmem))
      rw [Scan.bind_of_some hgap, slashPair_of_slashless hrest]

/-- What is read of a prefix ends before the next one. -/
theorem cuts_dumpedPrefix {v : List Char} (hv : ∀ c ∈ v.head?, c = 'p') (u : List Char) :
    Scan.Cuts dumpedPrefix u v := by
  have hgap : Scan.EndsAt Scan.blanks1 v := Scan.endsAt_run1 fun c hc => by
    rw [hv c hc]
    decide
  have hpair : Scan.EndsAt slashPair v := endsAt_slashPair fun c hc => by
    rw [hv c hc]
    decide
  have hrest : ∀ a ∈ prefixWord.toList.tail, sameLetter a 'p' = false := by decide
  exact Scan.cuts_caseless_bind (fun c hc => by rw [hv c hc]; exact hrest)
    (fun _ => hgap.bind fun _ => hpair) u

/-- Without a slash there is no prefix. -/
theorem findAll_dumpedPrefix_append {u v : List Char} (hu : '/' ∉ u)
    (hv : ∀ c ∈ v.head?, c = 'p') :
    Scan.findAll dumpedPrefix (u ++ v) = Scan.findAll dumpedPrefix v := by
  refine Scan.findAll_append_of_none fun t hne ht => ?_
  rw [cuts_dumpedPrefix hv u t hne ht, dumpedPrefix_of_slashless fun h => hu (ht.subset h)]
  rfl

/-- In a block the prefix is found, and nothing else. -/
theorem DumpBlock.findAll_text_append (b : DumpBlock) {more : List Char}
    (hmore : ∀ c ∈ more.head?, c = 'p') :
    Scan.findAll dumpedPrefix (b.text ++ more) =
      b.listed.pair :: Scan.findAll dumpedPrefix more := by
  have hdecimal : isDecimal 'p' = false := by decide
  have hhead : ∀ c ∈ (b.body ++ more).head?, isDecimal c = false := by
    intro c hc
    rw [List.head?_append, Option.mem_def, Option.or_eq_some_iff] at hc
    rcases hc with hbody | ⟨-, hnext⟩
    · exact b.body_head c hbody
    · rw [hmore c hnext, hdecimal]
  have hword : Scan.caseless "prefix"
      (prefixWord.toList ++ ' ' :: (b.listed.shown ++ (b.body ++ more))) =
        some ((), ' ' :: (b.listed.shown ++ (b.body ++ more))) := rfl
  have hgap := Scan.blanks1_space (b.listed.head?_shown_append (b.body ++ more))
  have hread : dumpedPrefix (prefixWord.toList ++ ' ' :: (b.listed.shown ++ (b.body ++ more))) =
      some (b.listed.pair, b.body ++ more) := by
    rw [dumpedPrefix, Scan.bind_of_some hword, Scan.bind_of_some hgap,
      b.listed.slashPair_shown_append hhead]
  have hfound : prefixWord.toList ++ ' ' :: (b.listed.shown ++ (b.body ++ more)) =
      (prefixWord.toList ++ ' ' :: b.listed.shown) ++ (b.body ++ more) := by
    simp
  have hchars : b.text ++ more =
      prefixWord.toList ++ ' ' :: (b.listed.shown ++ (b.body ++ more)) := by
    simp [text]
  have hne : prefixWord.toList ++ ' ' :: b.listed.shown ≠ [] :=
    List.append_ne_nil_of_right_ne_nil _ (List.cons_ne_nil _ _)
  rw [hfound] at hread
  rw [hchars, hfound, Scan.findAll_append_of_some hne hread,
    findAll_dumpedPrefix_append b.body_slashless hmore]

theorem DumpBlock.head?_text (b : DumpBlock) : b.text.head? = some 'p' := rfl

theorem findAll_dumpedPrefix (blocks : List DumpBlock) :
    Scan.findAll dumpedPrefix (blocks.flatMap DumpBlock.text) =
      (blocks.map DumpBlock.listed).map ListedAddress.pair := by
  rw [List.map_map]
  exact Scan.findAll_flatMap DumpBlock.head?_text (fun b _ => b.findAll_text_append) blocks

/-- A dump tells the first length of use of a global address in it. -/
theorem ofAdvertisementDump_eq {front : List Char} (hfront : '/' ∉ front)
    (blocks : List DumpBlock) :
    ofAdvertisementDump (String.ofList (front ++ blocks.flatMap DumpBlock.text)) =
      firstOfUse (lengthsOfPublic (blocks.map DumpBlock.listed)) := by
  rw [ofAdvertisementDump, String.toList_ofList,
    findAll_dumpedPrefix_append hfront (Scan.head?_flatMap_of_forall DumpBlock.head?_text blocks),
    findAll_dumpedPrefix, firstPublic_map_pair]

/-! ## Listings of an interface -/

/-- The word before a length in the listing of an interface. -/
def lengthWord : String := "prefixlen"

/-- An address in the listing of an interface, with its zone and with what follows it up to the next
address. -/
structure InterfaceLine where
  listed : ListedAddress
  zone : Option (List Char)
  remark : List Char
  zone_word : ∀ z ∈ zone, ∀ c ∈ z, isWordChar c = true
  remark_head : ∀ c ∈ remark.head?, isDecimal c = false
  remark_silent : ¬addressWord.toList <:+: remark

namespace InterfaceLine

variable (l : InterfaceLine)

/-- The zone behind its sign. -/
def zoneText : List Char := l.zone.elim [] ('%' :: ·)

/-- The address up to the end of its length. -/
def announcement : List Char :=
  addressWord.toList ++ ' ' :: (l.listed.address ++ (l.zoneText ++ ' ' ::
    (lengthWord.toList ++ ' ' :: l.listed.digits)))

/-- The characters of the line. -/
def chars : List Char := l.announcement ++ l.remark

theorem optional_zoneText_append (s : List Char) :
    Scan.optional (Scan.word "%") (l.zoneText ++ ' ' :: s) =
      some ((), l.zone.getD [] ++ ' ' :: s) := by
  rw [zoneText]
  cases l.zone with
  | none =>
    have hword : Scan.word "%" (' ' :: s) = none := rfl
    exact congrArg (fun x => some (x.getD ((), ' ' :: s))) hword
  | some z =>
    have hword : Scan.word "%" ('%' :: (z ++ ' ' :: s)) = some ((), z ++ ' ' :: s) :=
      Scan.word_append "%" _
    exact congrArg (fun x => some (x.getD ((), '%' :: (z ++ ' ' :: s)))) hword

theorem run_zone_append (s : List Char) :
    Scan.run isWordChar (l.zone.getD [] ++ ' ' :: s) = some (l.zone.getD [], ' ' :: s) := by
  have hword : ∀ c ∈ l.zone.getD [], isWordChar c = true := by
    cases hzone : l.zone with
    | none => exact nofun
    | some z => exact l.zone_word z hzone
  have hspace : ¬isWordChar ' ' = true := by decide
  rw [Scan.run, List.takeWhile_append_of_pos hword, List.dropWhile_append_of_pos hword,
    List.takeWhile_cons_of_neg hspace, List.dropWhile_cons_of_neg hspace, List.append_nil]

theorem head?_zoneText_append (s : List Char) :
    ∀ c ∈ (l.zoneText ++ ' ' :: s).head?, isHexOrColon c = false := by
  intro c hc
  rw [zoneText] at hc
  cases hzone : l.zone with
  | none =>
    rw [hzone] at hc
    obtain rfl : ' ' = c := Option.some.inj hc
    decide
  | some z =>
    rw [hzone] at hc
    obtain rfl : '%' = c := Option.some.inj hc
    decide

/-- What is read of a line is its address with its length, whatever the zone. -/
theorem interfaceAddress_announcement_append {s : List Char}
    (hs : ∀ c ∈ s.head?, isDecimal c = false) :
    interfaceAddress (l.announcement ++ s) = some (l.listed.pair, s) := by
  have hchars : l.announcement ++ s = addressWord.toList ++ ' ' :: (l.listed.address ++
      (l.zoneText ++ ' ' :: (lengthWord.toList ++ ' ' :: (l.listed.digits ++ s)))) := by
    simp [announcement]
  have hgap := Scan.blanks1_space (s := l.listed.address ++
    (l.zoneText ++ ' ' :: (lengthWord.toList ++ ' ' :: (l.listed.digits ++ s))))
    (l.listed.head?_address_append _)
  have haddress := Scan.run1_append l.listed.address_ne_nil l.listed.isHexOrColon
    (l.head?_zoneText_append (lengthWord.toList ++ ' ' :: (l.listed.digits ++ s)))
  have hgap' : Scan.blanks1 (' ' :: (lengthWord.toList ++ ' ' :: (l.listed.digits ++ s))) =
      some ([' '], lengthWord.toList ++ ' ' :: (l.listed.digits ++ s)) :=
    Scan.blanks1_space fun c hc => by
      obtain rfl : 'p' = c := Option.some.inj hc
      decide
  have hgap'' : Scan.blanks1 (' ' :: (l.listed.digits ++ s)) = some ([' '], l.listed.digits ++ s) :=
    Scan.blanks1_space (l.listed.head?_digits_append s)
  have hdigits := Scan.run1_append l.listed.digits_ne_nil l.listed.isDecimal_of_mem_digits hs
  rw [hchars, interfaceAddress, ← addressWord, ← lengthWord,
    Scan.bind_of_some (Scan.word_append addressWord _), Scan.bind_of_some hgap,
    Scan.bind_of_some haddress, Scan.bind_of_some (l.optional_zoneText_append _),
    Scan.bind_of_some (l.run_zone_append _), Scan.bind_of_some hgap',
    Scan.bind_of_some (Scan.word_append lengthWord _), Scan.bind_of_some hgap'',
    Scan.bind_of_some hdigits]
  rfl

theorem head?_chars : l.chars.head? = some 'i' := rfl

/-- In a line the address is found, and nothing else. -/
theorem findAll_chars_append {more : List Char} (hmore : ∀ c ∈ more.head?, c = 'i') :
    Scan.findAll interfaceAddress (l.chars ++ more) =
      l.listed.pair :: Scan.findAll interfaceAddress more := by
  have hdecimal : isDecimal 'i' = false := by decide
  have hhead : ∀ c ∈ (l.remark ++ more).head?, isDecimal c = false := by
    intro c hc
    rw [List.head?_append, Option.mem_def, Option.or_eq_some_iff] at hc
    rcases hc with hremark | ⟨-, hnext⟩
    · exact l.remark_head c hremark
    · rw [hmore c hnext, hdecimal]
  have hrest : ∀ c ∈ more.head?, c ∉ addressWord.toList.tail := by
    intro c hc
    rw [hmore c hc]
    decide
  have hne : l.announcement ≠ [] := List.append_ne_nil_of_right_ne_nil _ (List.cons_ne_nil _ _)
  rw [chars, List.append_assoc, Scan.findAll_append_of_some hne
    (l.interfaceAddress_announcement_append hhead)]
  exact congrArg _ (Scan.findAll_append_of_wordless l.remark_silent hrest)

end InterfaceLine

theorem findAll_interfaceAddress (lines : List InterfaceLine) :
    Scan.findAll interfaceAddress (lines.flatMap InterfaceLine.chars) =
      (lines.map InterfaceLine.listed).map ListedAddress.pair := by
  rw [List.map_map]
  exact Scan.findAll_flatMap InterfaceLine.head?_chars (fun l _ => l.findAll_chars_append) lines

/-- The listing of an interface tells the first length of use of a global address in it. -/
theorem ofInterfaceListing_eq {front : List Char} (hfront : ¬addressWord.toList <:+: front)
    (lines : List InterfaceLine) :
    ofInterfaceListing (String.ofList (front ++ lines.flatMap InterfaceLine.chars)) =
      firstOfUse (lengthsOfPublic (lines.map InterfaceLine.listed)) := by
  have hrest : ∀ c ∈ (lines.flatMap InterfaceLine.chars).head?, c ∉ addressWord.toList.tail := by
    intro c hc
    rw [Scan.head?_flatMap_of_forall InterfaceLine.head?_chars lines c hc]
    decide
  have hscan : Scan.findAll interfaceAddress (front ++ lines.flatMap InterfaceLine.chars) =
      Scan.findAll interfaceAddress (lines.flatMap InterfaceLine.chars) :=
    Scan.findAll_append_of_wordless hfront hrest
  rw [ofInterfaceListing, String.toList_ofList, hscan, findAll_interfaceAddress,
    firstPublic_map_pair]

/-! ## JSON listings -/

theorem isShownAsIs_of_isHexOrColon {c : Char} (hc : isHexOrColon c = true) :
    Json.IsShownAsIs c := by
  have hescape : isHexOrColon '\\' = false := by decide
  have hquote : isHexOrColon '"' = false := by decide
  refine ⟨?_, ?_, ?_⟩
  · rintro rfl
    exact absurd hc (by rw [hquote]; decide)
  · rintro rfl
    exact absurd hc (by rw [hescape]; decide)
  · simp only [isHexOrColon, Bool.or_eq_true, Bool.and_eq_true, decide_eq_true_eq] at hc
    omega

/-- An address whose length has at most three digits. -/
structure BriefAddress extends ListedAddress where
  length_lt : length < 1000

namespace BriefAddress

variable (a : BriefAddress)

theorem length_lt_pow : a.length < 10 ^ Numeral.maxDigits :=
  Nat.not_le.1 (not_isTooLong_of_lt a.length_lt)

/-- The members by which the address is shown in JSON. -/
def members : List Json.Member :=
  [⟨"IPAddress".toList,
      .text a.address fun c hc => isShownAsIs_of_isHexOrColon (a.isHexOrColon c hc), by decide⟩,
    ⟨"PrefixLength".toList, .number a.length a.length_lt_pow, by decide⟩]

theorem objectPair?_members : objectPair? (Json.objectOf a.members) = some a.pair := by
  have hfields : Json.objectOf a.members = .object
      [("IPAddress", .text (String.ofList a.address)), ("PrefixLength", .int a.length)] := by
    simp [Json.objectOf, members, Json.Member.addTo, Json.setField, Json.Leaf.value]
  have haddress : shownMember [("IPAddress", .text (String.ofList a.address)),
      ("PrefixLength", .int a.length)] "IPAddress" = a.address :=
    String.toList_ofList
  have hlength : shownMember [("IPAddress", .text (String.ofList a.address)),
      ("PrefixLength", .int a.length)] "PrefixLength" = a.digits := by
    have hshown : Json.display (.int a.length) = toString a.length := rfl
    change (Json.display (.int a.length)).toList = _
    rw [hshown, Nat.toString_eq_ofList_toDigits, String.toList_ofList]
    rfl
  rw [hfields, objectPair?, haddress, hlength]
  rfl

end BriefAddress

/-- A JSON array of addresses tells the first length of use of a global address in it. -/
theorem ofJsonListing_array {entries : List BriefAddress} {text : List Char}
    (htext : Json.Spaced (Json.arrayTokens (entries.map BriefAddress.members)) text)
    {maxNesting : Nat} (hnesting : 2 ≤ maxNesting) :
    ofJsonListing maxNesting (String.ofList text) =
      firstOfUse (lengthsOfPublic (entries.map BriefAddress.toListedAddress)) := by
  have hpairs : ((entries.map BriefAddress.members).map Json.objectOf).filterMap objectPair? =
      (entries.map BriefAddress.toListedAddress).map ListedAddress.pair := by
    rw [List.map_map, List.map_map, List.filterMap_map, ← List.filterMap_eq_map]
    exact List.filterMap_congr fun a _ => a.objectPair?_members
  rw [ofJsonListing, Json.parse, String.toList_ofList, Json.read_of_spaced_array htext hnesting]
  dsimp only
  rw [hpairs, firstPublic_map_pair]

/-- One address tells its length as an object, too. -/
theorem ofJsonListing_object {a : BriefAddress} {text : List Char}
    (htext : Json.Spaced (Json.objectTokens a.members) text) {maxNesting : Nat}
    (hnesting : 1 ≤ maxNesting) :
    ofJsonListing maxNesting (String.ofList text) =
      firstOfUse (lengthsOfPublic [a.toListedAddress]) := by
  rw [ofJsonListing, Json.parse, String.toList_ofList, Json.read_of_spaced_object htext hnesting]
  change firstPublic (objectPair? (Json.objectOf a.members)).toList = _
  rw [a.objectPair?_members]
  exact firstPublic_map_pair [a.toListedAddress]

/-! ## The same in all formats -/

/-- The first length of use among the lengths of the addresses that count as global. -/
def toldLength (entries : List BriefAddress) : Option Int :=
  ((lengthsOfPublic (entries.map BriefAddress.toListedAddress)).find? fun n => IsOfUse n).map
    Nat.cast

theorem firstOfUse_lengthsOfPublic (entries : List BriefAddress) :
    firstOfUse (lengthsOfPublic (entries.map BriefAddress.toListedAddress)) =
      .ok (toldLength entries) := by
  refine firstOfUse_of_forall_lt fun n hn => ?_
  obtain ⟨a, ha, -, rfl⟩ := mem_lengthsOfPublic_iff.1 hn
  obtain ⟨b, -, rfl⟩ := List.mem_map.1 ha
  exact b.length_lt

/-- The same addresses tell the same length in a dump of advertisements, in the listing of an
interface and in JSON, the first length of use of an address that counts as global.  The reader of
JSON need not allow of more nesting than they have. -/
theorem listings_tell_same (entries : List BriefAddress) :
    (∀ (front : List Char) (blocks : List DumpBlock), '/' ∉ front →
      blocks.map DumpBlock.listed = entries.map BriefAddress.toListedAddress →
      ofAdvertisementDump (String.ofList (front ++ blocks.flatMap DumpBlock.text)) =
        .ok (toldLength entries)) ∧
    (∀ (front : List Char) (lines : List InterfaceLine), ¬addressWord.toList <:+: front →
      lines.map InterfaceLine.listed = entries.map BriefAddress.toListedAddress →
      ofInterfaceListing (String.ofList (front ++ lines.flatMap InterfaceLine.chars)) =
        .ok (toldLength entries)) ∧
    (∀ maxNesting text, 2 ≤ maxNesting →
      Json.Spaced (Json.arrayTokens (entries.map BriefAddress.members)) text →
      ofJsonListing maxNesting (String.ofList text) = .ok (toldLength entries)) ∧
    ∀ maxNesting a text, 1 ≤ maxNesting → entries = [a] →
      Json.Spaced (Json.objectTokens a.members) text →
      ofJsonListing maxNesting (String.ofList text) = .ok (toldLength entries) := by
  refine ⟨fun front blocks hfront hblocks => ?_, fun front lines hfront hlines => ?_,
    fun maxNesting text hnesting htext => ?_, fun maxNesting a text hnesting ha htext => ?_⟩
  · rw [ofAdvertisementDump_eq hfront, hblocks, firstOfUse_lengthsOfPublic]
  · rw [ofInterfaceListing_eq hfront, hlines, firstOfUse_lengthsOfPublic]
  · rw [ofJsonListing_array htext hnesting, firstOfUse_lengthsOfPublic]
  · rw [ofJsonListing_object htext hnesting, ha]
    exact firstOfUse_lengthsOfPublic [a]

/-- An address of a link, one of a site with a length that is of no use, and one of a subnet. -/
def mixedAddresses : List BriefAddress :=
  [⟨linkLocalAddress, by decide⟩, ⟨{ siteAddress with length := 129 }, by decide⟩,
    ⟨subnetAddress, by decide⟩]

/-- A block of a dump, of which the body says more about the prefix. -/
def sampleBlock (a : ListedAddress) : DumpBlock where
  listed := a
  body := "\n\t\x7b\n\t\tAdvOnLink on;\n\t\x7d; # End of prefix definition\n\n\t".toList
  body_head := by decide
  body_slashless := by decide

/-- A line of the listing of an interface, with a zone and a remark behind the length. -/
def zonedLine (a : ListedAddress) : InterfaceLine where
  listed := a
  zone := some "en0".toList
  remark := " secured scopeid 0x4\n\t".toList
  zone_word := by decide
  remark_head := by decide
  remark_silent := by decide

/-- The subnet decides in each format. -/
theorem listings_tell_same_mixedAddresses :
    ofAdvertisementDump (String.ofList ("interface eth0\n".toList ++
        ((mixedAddresses.map BriefAddress.toListedAddress).map sampleBlock).flatMap
          DumpBlock.text)) = .ok (some 64) ∧
      ofInterfaceListing (String.ofList ("en0: flags=8863\n\t".toList ++
        ((mixedAddresses.map BriefAddress.toListedAddress).map zonedLine).flatMap
          InterfaceLine.chars)) = .ok (some 64) ∧
      ofJsonListing Json.usualNesting (String.ofList ((Json.arrayTokens
        (mixedAddresses.map BriefAddress.members)).flatMap ([' ', '\n'] ++ ·))) = .ok (some 64) := by
  have htold : toldLength mixedAddresses = some 64 := by decide
  obtain ⟨hdump, hlines, hjson, -⟩ := listings_tell_same mixedAddresses
  rw [htold] at hdump hlines hjson
  refine ⟨hdump _ _ (by decide) ?_, hlines _ _ (by decide) ?_,
    hjson _ _ (by decide) (Json.spaced_flatMap (by decide) _)⟩
  · rw [List.map_map]
    exact List.map_id _
  · rw [List.map_map]
    exact List.map_id _

end HostReport.Ipv6
