import HostReport.Proofs.Number.Numeral
import HostReport.Proofs.Report.Lines
import HostReport.Proofs.Text.HexDigit
import HostReport.Proofs.Text.Pieces
import HostReport.Proofs.Text.Search

/-!
# Numbers and owners of networks as texts

Three sources tell the number and the owner of a network in one text: two of them as a word `AS`
with the number and the owner behind it, one as a row of values in quotation marks.  All three texts
are read back, and the report writes what was read as the first two do.
-/

namespace HostReport

open Text

/-! ## What the sources write -/

/-- The number of a network in ASCII digits. -/
structure IsNetworkNumber (n : String) : Prop where
  ne_empty : n ≠ ""
  isDigit : ∀ c ∈ n.toList, c.isDigit = true

/-- Whether a text holds the word "error" in any case. -/
def SpeaksOfError (s : List Char) : Prop := contains "error".toList (lower s) = true

/-- The name of an owner: words with single spaces between them, without a quotation mark at either
end, that do not speak of an error. -/
structure IsOwnerName (o : String) : Prop where
  isSpaced : IsSpaced o.toList
  head_ne : ∀ c ∈ o.toList.head?, c ≠ '"'
  last_ne : ∀ c ∈ o.toList.getLast?, c ≠ '"'
  noError : ¬SpeaksOfError o.toList

/-- A number and an owner as one text. -/
def networkText (n o : String) : String := "AS" ++ n ++ " " ++ o

/-- An address, a number, a range and an owner as a row of values. -/
def networkRow (ip n range o : String) : String :=
  "\"" ++ ip ++ "\",\"" ++ n ++ "\",\"" ++ range ++ "\",\"" ++ o ++ "\""

/-- A text between quotation marks. -/
def quotedValue (s : List Char) : List Char := '"' :: (s ++ ['"'])

variable {n o : String}

theorem toList_networkText (n o : String) :
    (networkText n o).toList = ('A' :: 'S' :: n.toList) ++ ' ' :: o.toList := by
  simp [networkText]

theorem toList_networkRow (ip n range o : String) :
    (networkRow ip n range o).toList =
      quotedValue ip.toList ++ ',' :: (quotedValue n.toList ++ ',' ::
        (quotedValue range.toList ++ ',' :: quotedValue o.toList)) := by
  simp [networkRow, quotedValue]

/-! ## Numbers -/

/-- The letters in front of a number are none of its digits. -/
theorem isDecimal_of_capitalIs {c : Char} (hc : capitalIs 'A' c = true) : isDecimal c = false := by
  have hcases : c = 'A' ∨ c = 'a' := by simpa [capitalIs] using hc
  rcases hcases with rfl | rfl <;> decide

theorem dropAsLetters_of_isDecimal {s : List Char} (hs : ∀ c ∈ s, isDecimal c = true) :
    dropAsLetters s = s := by
  unfold dropAsLetters
  split
  · next a b r =>
    have hdigit : isDecimal a = true := hs a List.mem_cons_self
    have hletter : capitalIs 'A' a = false := by
      by_contra hletter
      have hnone := isDecimal_of_capitalIs (by simpa using hletter)
      exact Bool.false_ne_true (hnone.symm.trans hdigit)
    rw [hletter]
    rfl
  · rfl

namespace IsNetworkNumber

theorem isBlank (hn : IsNetworkNumber n) : ∀ c ∈ n.toList, isBlank c = false :=
  fun c hc => Numeral.isBlank_of_isDigit (hn.isDigit c hc)

theorem not_mem {c : Char} (hc : c.isDigit = false) (hn : IsNetworkNumber n) : c ∉ n.toList :=
  fun hmem => absurd (hn.isDigit c hmem) (by simp [hc])

/-- A number speaks of no error. -/
theorem not_speaksOfError (hn : IsNetworkNumber n) : ¬SpeaksOfError n.toList := by
  have hlower : lower n.toList = n.toList := lower_eq_self fun c hc => by
    have hrange := Numeral.toNat_of_isDigit (hn.isDigit c hc)
    simp only [isLowHexOrColon, Bool.or_eq_true, Bool.and_eq_true, decide_eq_true_eq]
    omega
  rw [SpeaksOfError, hlower, contains_eq_true_iff]
  exact fun hword => hn.not_mem rfl (hword.subset (by decide : 'e' ∈ "error".toList))

/-- The word with the letters `AS` in front of the number has no blanks either. -/
theorem isBlank_asWord (hn : IsNetworkNumber n) :
    ∀ c ∈ 'A' :: 'S' :: n.toList, Text.isBlank c = false := by
  simpa using ⟨by decide, by decide, hn.isBlank⟩

theorem isAsWord (hn : IsNetworkNumber n) : isAsWord ('A' :: 'S' :: n.toList) = true := by
  have hlast : n.toList.getLast? ≠ some '\n' := by
    intro hlast
    exact absurd (hn.isDigit '\n' (List.mem_of_getLast? hlast)) (by decide)
  have hdecimal : n.toList.all isDecimal = true :=
    List.all_eq_true.2 fun c hc => Numeral.isDecimal_of_isDigit (hn.isDigit c hc)
  have hletters : (sameLetter 'a' 'A' && sameLetter 's' 'S') = true := by decide
  simp only [HostReport.isAsWord, beq_iff_eq, if_neg hlast, hletters, hdecimal]
  simpa using hn.ne_empty

/-- A number is read as it is, with the letters in front of it or without. -/
theorem asnText_asWord (hn : IsNetworkNumber n) :
    asnText (some (.text (String.ofList ('A' :: 'S' :: n.toList)))) = .ok n := by
  have hstrip := trim_eq_self_of_forall hn.isBlank_asWord
  rw [asnText, String.toList_ofList, Text.strip, hstrip]
  exact congrArg Except.ok String.ofList_toList

theorem asnText_digits (hn : IsNetworkNumber n) : asnText (some (.text n)) = .ok n := by
  have hstrip := trim_eq_self_of_forall hn.isBlank
  have hdigits := dropAsLetters_of_isDecimal fun c hc =>
    Numeral.isDecimal_of_isDigit (hn.isDigit c hc)
  rw [asnText, Text.strip, hstrip, hdigits, String.ofList_toList]

end IsNetworkNumber

/-! ## The three texts -/

/-- The word with the number is cut off, and the owner is left. -/
theorem cut?_networkText (hn : IsNetworkNumber n) :
    cut? ' ' (networkText n o).toList = some ('A' :: 'S' :: n.toList, o.toList) := by
  rw [toList_networkText]
  refine cut?_append_cons (fun hmem => ?_) o.toList
  exact absurd (hn.isBlank_asWord ' ' hmem) (by decide)

theorem isSpaced_networkText (hn : IsNetworkNumber n) (ho : IsSpaced o.toList) :
    IsSpaced (networkText n o).toList := by
  rw [toList_networkText]
  exact ho.cons (List.cons_ne_nil _ _) hn.isBlank_asWord

theorem textMember_networkText (hn : IsNetworkNumber n) (ho : IsSpaced o.toList)
    {data : List (String × Json)} {name : String}
    (hdata : Json.field? name data = some (.text (networkText n o))) :
    textMember data name = networkText n o := by
  rw [textMember, hdata]
  dsimp only
  rw [strip, (isSpaced_networkText hn ho).strip_eq, String.ofList_toList]

namespace IpInfo

theorem ofIpinfo_networkText (hn : IsNetworkNumber n) (ho : IsSpaced o.toList)
    {data : List (String × Json)}
    (hdata : Json.field? "org" data = some (.text (networkText n o))) :
    ∃ i, ofIpinfo data = .ok i ∧ i.asn = n ∧ i.org = o := by
  have howner : strip (String.ofList o.toList) = o := by
    rw [strip, String.toList_ofList, ho.strip_eq, String.ofList_toList]
  rw [ofIpinfo, textMember_networkText hn ho hdata]
  simp only [cut?_networkText hn, Option.getD_some, if_pos hn.isAsWord, hn.asnText_asWord, howner]
  exact ⟨_, rfl, rfl, rfl⟩

theorem ofIpapi_networkText (hn : IsNetworkNumber n) (ho : IsSpaced o.toList) (ip : String)
    {data : List (String × Json)} (hdata : Json.field? "as" data = some (.text (networkText n o))) :
    ofIpapi ip data = .ok { ip, asn := n, org := o } := by
  have hwords : words (networkText n o).toList = ('A' :: 'S' :: n.toList) :: words o.toList := by
    rw [toList_networkText, words_append_cons (List.cons_ne_nil _ _) hn.isBlank_asWord]
  rw [ofIpapi, textMember_networkText hn ho hdata, hwords]
  dsimp only
  rw [hn.asnText_asWord, ho.joinWith_words, String.ofList_toList]
  rfl

/-! ## A row of values -/

theorem strip_quotedValue (s : List Char) : Text.strip (quotedValue s) = quotedValue s := by
  have hquote : isBlank '"' = false := by decide
  refine trim_eq_self (fun c hc => ?_) fun c hc => ?_
  · obtain rfl : '"' = c := Option.some.inj hc
    exact hquote
  · have hend : quotedValue s = ('"' :: s) ++ ['"'] := rfl
    rw [hend, List.getLast?_concat] at hc
    obtain rfl : '"' = c := Option.some.inj hc
    exact hquote

theorem dropQuotes_quotedValue {s : List Char} (hhead : ∀ c ∈ s.head?, c ≠ '"')
    (hlast : ∀ c ∈ s.getLast?, c ≠ '"') : dropQuotes (quotedValue s) = s := by
  rw [dropQuotes, quotedValue, trim_cons (p := (· == '"')) rfl, trim_concat (p := (· == '"')) rfl]
  exact trim_eq_self (fun c hc => by simpa using hhead c hc) fun c hc => by
    simpa using hlast c hc

theorem speaksOfError_append_cons {c : Char} (hc : IsCaseBoundary c) (hword : c ∉ "error".toList)
    (u s : List Char) : SpeaksOfError (u ++ c :: s) ↔ SpeaksOfError u ∨ SpeaksOfError s := by
  rw [SpeaksOfError, contains_lower_append_cons hc (by decide) hword, Bool.or_eq_true]
  rfl

theorem speaksOfError_quotedValue (s : List Char) :
    SpeaksOfError (quotedValue s) ↔ SpeaksOfError s := by
  have hnone : ¬SpeaksOfError [] := by
    rw [SpeaksOfError]
    decide
  have hopen := speaksOfError_append_cons isCaseBoundary_quote (by decide) [] (s ++ ['"'])
  rw [List.nil_append] at hopen
  rw [quotedValue, hopen, speaksOfError_append_cons isCaseBoundary_quote (by decide),
    or_iff_right hnone, or_iff_left hnone]

/-- A row speaks of an error exactly if one of its values does. -/
theorem speaksOfError_networkRow (ip n range o : String) :
    SpeaksOfError (networkRow ip n range o).toList ↔ SpeaksOfError ip.toList ∨
      SpeaksOfError n.toList ∨ SpeaksOfError range.toList ∨ SpeaksOfError o.toList := by
  have hcomma : ',' ∉ "error".toList := by decide
  rw [toList_networkRow, speaksOfError_append_cons isCaseBoundary_comma hcomma,
    speaksOfError_append_cons isCaseBoundary_comma hcomma,
    speaksOfError_append_cons isCaseBoundary_comma hcomma]
  simp only [speaksOfError_quotedValue]

theorem comma_not_mem_quotedValue {s : List Char} (hs : ',' ∉ s) : ',' ∉ quotedValue s := by
  simpa [quotedValue] using hs

/-- The row is cut at its first three commas; those of the owner make further pieces. -/
theorem splitOnP_networkRow {ip n range : String} (hip : ',' ∉ ip.toList) (hn : ',' ∉ n.toList)
    (hrange : ',' ∉ range.toList) (o : String) :
    (networkRow ip n range o).toList.splitOnP (· == ',') =
      quotedValue ip.toList :: quotedValue n.toList :: quotedValue range.toList ::
        (quotedValue o.toList).splitOnP (· == ',') := by
  rw [toList_networkRow, splitOnP_append_cons_of_not_mem (comma_not_mem_quotedValue hip),
    splitOnP_append_cons_of_not_mem (comma_not_mem_quotedValue hn),
    splitOnP_append_cons_of_not_mem (comma_not_mem_quotedValue hrange)]

/-- The outer marks of the row are those of its first and its last value. -/
theorem strip_networkRow (ip n range o : String) :
    Text.strip (networkRow ip n range o).toList = (networkRow ip n range o).toList := by
  have hbetween : ∃ s, (networkRow ip n range o).toList = quotedValue s :=
    ⟨ip.toList ++ ['"', ',', '"'] ++ n.toList ++ ['"', ',', '"'] ++ range.toList ++
      ['"', ',', '"'] ++ o.toList, by simp [networkRow, quotedValue]⟩
  obtain ⟨s, hs⟩ := hbetween
  rw [hs, strip_quotedValue]

theorem ofHackertarget_networkRow {ip range : String} (hn : IsNetworkNumber n)
    (ho : IsOwnerName o) (hip : ',' ∉ ip.toList) (hrange : ',' ∉ range.toList)
    (hipError : ¬SpeaksOfError ip.toList) (hrangeError : ¬SpeaksOfError range.toList)
    (address : String) :
    ofHackertarget address (networkRow ip n range o) =
      .ok (some { ip := address, asn := n, org := o }) := by
  have herror : ¬SpeaksOfError (networkRow ip n range o).toList := by
    rw [speaksOfError_networkRow, not_or, not_or, not_or]
    exact ⟨hipError, hn.not_speaksOfError, hrangeError, ho.noError⟩
  have hskip : ((networkRow ip n range o).toList.isEmpty ||
      contains "error".toList (lower (networkRow ip n range o).toList)) = false := by
    rw [Bool.or_eq_false_iff]
    refine ⟨?_, Bool.eq_false_iff.2 herror⟩
    rw [toList_networkRow]
    rfl
  have hnumber : dropQuotes (Text.strip (quotedValue n.toList)) = n.toList := by
    have hquote : '"' ∉ n.toList := hn.not_mem rfl
    rw [strip_quotedValue, dropQuotes_quotedValue]
    · exact fun c hc h => hquote (h ▸ List.mem_of_mem_head? hc)
    · exact fun c hc h => hquote (h ▸ List.mem_of_getLast? hc)
  obtain ⟨owner, more, howner⟩ := List.exists_cons_of_ne_nil
    (List.splitOnP_ne_nil (· == ',') (quotedValue o.toList))
  have hjoined : joinWith [','] (owner :: more) = quotedValue o.toList := by
    rw [← howner, joinWith_splitOnP]
  rw [ofHackertarget, strip_networkRow]
  dsimp only
  rw [hskip, if_neg Bool.false_ne_true, splitOnP_networkRow hip (hn.not_mem rfl) hrange, howner]
  dsimp only
  rw [hnumber, String.ofList_toList, hn.asnText_digits, hjoined, strip_quotedValue,
    dropQuotes_quotedValue ho.head_ne ho.last_ne, ho.isSpaced.strip_eq, String.ofList_toList]
  rfl

end IpInfo

/-! ## The line of the report -/

/-- A number is shown behind the letters `AS`, whatever text it is, and the owner behind it. -/
theorem IpInfo.networkLine_of_asn_ne {i : IpInfo} (hasn : i.asn ≠ "") (family : Family)
    (language : Language) :
    ∃ label, Label.ofKey (family.name ++ "_asn") = .ok label ∧
      i.networkLine family.name language =
        .ok (label.line
          (if i.org = "" then "AS" ++ i.asn else networkText i.asn i.org) language) := by
  obtain ⟨⟨label, hlabel, -⟩, -⟩ := Label.ofKey_family family
  refine ⟨label, hlabel, ?_⟩
  have hnumber : ("AS" ++ i.asn).isEmpty = false := by simp
  rw [networkLine, hlabel]
  by_cases howner : i.org = ""
  · simp [hasn, howner, joinKnown, hnumber]
  · simp [hasn, howner, joinKnown, hnumber, networkText]

/-- A number and an owner are shown as the first two sources write them, in front of the
location. -/
theorem IpInfo.lines_of_network {i : IpInfo} (hasn : i.asn ≠ "") (horg : i.org ≠ "")
    (family : Family) (language : Language) :
    ∃ label location, Label.ofKey (family.name ++ "_asn") = .ok label ∧
      i.lines family.name language =
        .ok (label.line (networkText i.asn i.org) language ++ location) := by
  obtain ⟨label, hlabel, hnetwork⟩ := networkLine_of_asn_ne hasn family language
  obtain ⟨location, hlocation, -⟩ : ∃ text, i.locationLine family.name language = .ok text ∧
      IsBlockOver [family] language text := i.exists_locationLine List.mem_cons_self
  refine ⟨label, location, hlabel, ?_⟩
  rw [lines, hnetwork, hlocation, if_neg horg]
  rfl

/-- The three texts of a number and an owner are read as these, whatever else a payload says, and an
identity that has them is shown with the text of the first two. -/
theorem network_texts_agree {n o ip range : String} (hn : IsNetworkNumber n) (ho : IsOwnerName o)
    (hip : ',' ∉ ip.toList) (hrange : ',' ∉ range.toList) (hipError : ¬SpeaksOfError ip.toList)
    (hrangeError : ¬SpeaksOfError range.toList) :
    (∀ data, Json.field? "org" data = some (.text (networkText n o)) →
      ∃ i, IpInfo.ofIpinfo data = .ok i ∧ i.asn = n ∧ i.org = o) ∧
    (∀ address data, Json.field? "as" data = some (.text (networkText n o)) →
      IpInfo.ofIpapi address data = .ok { ip := address, asn := n, org := o }) ∧
    (∀ address, IpInfo.ofHackertarget address (networkRow ip n range o) =
      .ok (some { ip := address, asn := n, org := o })) ∧
    ∀ (i : IpInfo) (family : Family) (language : Language), i.asn = n → i.org = o →
      ∃ label location, Label.ofKey (family.name ++ "_asn") = .ok label ∧
        i.lines family.name language =
          .ok (label.line (networkText n o) language ++ location) := by
  refine ⟨fun data hdata => IpInfo.ofIpinfo_networkText hn ho.isSpaced hdata,
    fun address data hdata => IpInfo.ofIpapi_networkText hn ho.isSpaced address hdata,
    fun address => IpInfo.ofHackertarget_networkRow hn ho hip hrange hipError hrangeError address,
    ?_⟩
  rintro i family language rfl rfl
  have horg : i.org ≠ "" := by simpa using ho.isSpaced.ne_nil
  exact i.lines_of_network hn.ne_empty horg family language

/-- A name with a comma, inner quotation marks, letters beyond ASCII and a word that begins with
`AS`. -/
def sampleOwner : String := "ASGARD Süd \"Netz\", Ltd."

theorem isOwnerName_sampleOwner : IsOwnerName sampleOwner where
  isSpaced := ⟨["ASGARD".toList, "Süd".toList, "\"Netz\",".toList, "Ltd.".toList], by decide,
    by decide, by decide⟩
  head_ne := by decide
  last_ne := by decide
  noError := by
    rw [SpeaksOfError]
    decide +kernel

theorem network_texts_agree_sampleOwner :
    (∃ i, IpInfo.ofIpinfo [("ip", .text "203.0.113.7"),
        ("org", .text "AS64500 ASGARD Süd \"Netz\", Ltd.")] = .ok i ∧
      i.asn = "64500" ∧ i.org = sampleOwner) ∧
    IpInfo.ofIpapi "203.0.113.7" [("as", .text "AS64500 ASGARD Süd \"Netz\", Ltd.")] =
      .ok { ip := "203.0.113.7", asn := "64500", org := sampleOwner } ∧
    IpInfo.ofHackertarget "203.0.113.7"
        "\"203.0.113.7\",\"64500\",\"203.0.113.0/24\",\"ASGARD Süd \"Netz\", Ltd.\"" =
      .ok (some { ip := "203.0.113.7", asn := "64500", org := sampleOwner }) ∧
    ∃ label location, Label.ofKey "ipv6_asn" = .ok label ∧
      ({ asn := "64500", org := sampleOwner } : IpInfo).lines "ipv6" .chinese =
        .ok (label.line "AS64500 ASGARD Süd \"Netz\", Ltd." .chinese ++ location) := by
  have hip : ¬SpeaksOfError "203.0.113.7".toList := by
    rw [SpeaksOfError]
    decide +kernel
  have hrange : ¬SpeaksOfError "203.0.113.0/24".toList := by
    rw [SpeaksOfError]
    decide +kernel
  obtain ⟨hipinfo, hipapi, hrow, hlines⟩ := network_texts_agree (n := "64500")
    ⟨by decide, by decide⟩ isOwnerName_sampleOwner (by decide) (by decide) hip hrange
  exact ⟨hipinfo _ rfl, hipapi _ _ rfl, hrow _, hlines _ .ipv6 .chinese rfl rfl⟩

/-- A row is passed over for the word "error" in any case, so it is not enough that its address and
its range are free of the word in small letters. -/
theorem not_networkRow_of_capitals :
    ¬∀ n o ip range address : String, IsNetworkNumber n → IsOwnerName o →
      (∀ c ∈ ip.toList ++ range.toList, c ≠ ',' ∧ c ≠ '"' ∧ isBlank c = false) →
      ¬"error".toList <:+: ip.toList → ¬"error".toList <:+: range.toList →
      IpInfo.ofHackertarget address (networkRow ip n range o) =
        .ok (some { ip := address, asn := n, org := o }) := by
  intro hall
  have hread := hall "64500" sampleOwner "ERROR" "203.0.113.0/24" "203.0.113.7"
    ⟨by decide, by decide⟩ isOwnerName_sampleOwner (by decide) (by decide) (by decide)
  have hnone : (IpInfo.ofHackertarget "203.0.113.7"
      (networkRow "ERROR" "64500" "203.0.113.0/24" sampleOwner)).toOption = some none := by
    decide +kernel
  exact nomatch hnone.symm.trans (congrArg Except.toOption hread)

end HostReport
