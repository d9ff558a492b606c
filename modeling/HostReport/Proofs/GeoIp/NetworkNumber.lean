import HostReport.Proofs.GeoIp.Completion
import HostReport.Proofs.GeoIp.NetworkText

/-!
# What is taken for the number of a network

One source has its number checked before it is taken.  The others are taken at their word: whatever
text stands where the number is expected counts as the number, and so does a negative integer.  The
number of a family is the first text that is not empty, so a word in the place of a number ends the
search, and the report shows it behind the letters `AS`.
-/

namespace HostReport

open Text

/-! ## Numbers and other texts -/

/-- Whether a text is empty or a number in decimal digits, of whatever script. -/
def IsNumberText (s : String) : Prop := ∀ c ∈ s.toList, isDecimal c = true

instance (s : String) : Decidable (IsNumberText s) :=
  inferInstanceAs (Decidable (∀ c ∈ s.toList, isDecimal c = true))

/-- The letters `AS` in any case; some further letters have a capital form that begins with S. -/
def IsAsLetters (letters : List Char) : Prop :=
  ∃ a b, letters = [a, b] ∧ capitalIs 'A' a = true ∧ capitalBegins 'S' b = true

/-- Whether a text holds, between blanks, nothing but digits with the letters `AS` in front of them
or without. -/
def HoldsNumber (s : String) : Prop :=
  ∃ letters digits, Text.strip s.toList = letters ++ digits ∧
    (letters = [] ∨ IsAsLetters letters) ∧ ∀ c ∈ digits, isDecimal c = true

/-- Whether a member tells a number or nothing.  An integer tells one unless it is negative, as does
the integer part of a double. -/
def TellsNumber : Option Json → Prop
  | some (.int n) => 0 ≤ n
  | some (.double x) => ∀ n, x.toInt = .ok n → 0 ≤ n
  | some (.text s) => HoldsNumber s
  | _ => True

/-! ## The letters -/

theorem dropAsLetters_append {letters : List Char} (hletters : IsAsLetters letters)
    (s : List Char) : dropAsLetters (letters ++ s) = s := by
  obtain ⟨a, b, rfl, ha, hb⟩ := hletters
  simp [dropAsLetters, ha, hb]

/-- What is dropped from a text are the letters or nothing. -/
theorem exists_append_dropAsLetters (s : List Char) :
    ∃ letters, s = letters ++ dropAsLetters s ∧ (letters = [] ∨ IsAsLetters letters) := by
  unfold dropAsLetters
  split
  · next a b r =>
    by_cases hletters : (capitalIs 'A' a && capitalBegins 'S' b) = true
    · rw [if_pos hletters]
      exact ⟨[a, b], rfl, .inr ⟨a, b, rfl, Bool.and_eq_true_iff.1 hletters⟩⟩
    · rw [if_neg hletters]
      exact ⟨[], rfl, .inl rfl⟩
  · exact ⟨[], rfl, .inl rfl⟩

/-- What is left of a text without the letters is a number exactly if the text holds one. -/
theorem holdsNumber_iff (s : String) :
    HoldsNumber s ↔ ∀ c ∈ dropAsLetters (Text.strip s.toList), isDecimal c = true := by
  constructor
  · rintro ⟨letters, digits, hs, rfl | hletters, hdigits⟩
    · rw [List.nil_append] at hs
      rwa [hs, dropAsLetters_of_isDecimal hdigits]
    · rwa [hs, dropAsLetters_append hletters]
  · intro hdigits
    obtain ⟨letters, hs, hletters⟩ := exists_append_dropAsLetters (Text.strip s.toList)
    exact ⟨letters, _, hs, hletters, hdigits⟩

/-- A character is its own lower-case form or an ASCII capital. -/
theorem toLower_eq_self_or (c : Char) :
    c.toLower = c ∨ c ∈ (List.range' 65 26).map Char.ofNat := by
  by_cases hcapital : 65 ≤ c.toNat ∧ c.toNat ≤ 90
  · refine .inr (List.mem_map.2 ⟨c.toNat, ?_, Char.ofNat_toNat c⟩)
    rw [List.mem_range'_1]
    omega
  · exact .inl (toLower_eq_self (by omega))

theorem capitalIs_of_sameLetter {c : Char} (hc : sameLetter 'a' c = true) :
    capitalIs 'A' c = true := by
  rcases toLower_eq_self_or c with hlower | hcapital
  · have hsmall : c = 'a' := by simpa [sameLetter, hlower] using hc
    rw [hsmall]
    decide
  · have hall : ∀ d ∈ (List.range' 65 26).map Char.ofNat,
        sameLetter 'a' d = true → capitalIs 'A' d = true := by decide
    exact hall c hcapital hc

theorem capitalBegins_of_sameLetter {c : Char} (hc : sameLetter 's' c = true) :
    capitalBegins 'S' c = true := by
  rcases toLower_eq_self_or c with hlower | hcapital
  · have hsmall : c = 's' ∨ c.toNat = 0x17F := by simpa [sameLetter, hlower] using hc
    rcases hsmall with rfl | hlong
    · decide
    · simp [capitalBegins, capitalIs, hlong]
  · have hall : ∀ d ∈ (List.range' 65 26).map Char.ofNat,
        sameLetter 's' d = true → capitalBegins 'S' d = true := by decide
    exact hall c hcapital hc

/-- The letters `AS` are no blanks. -/
theorem IsAsLetters.isBlank {letters : List Char} (hletters : IsAsLetters letters) :
    ∀ c ∈ letters, Text.isBlank c = false := by
  obtain ⟨a, b, rfl, ha, hb⟩ := hletters
  have hfirst : a = 'A' ∨ a = 'a' := by simpa [capitalIs] using ha
  have hsecond : b = 'S' ∨ b = 's' ∨ b.toNat = 0x17F ∨ b.toNat = 0xDF ∨ b.toNat = 0xFB05 ∨
      b.toNat = 0xFB06 := by
    simpa [capitalBegins, capitalIs, or_assoc] using hb
  have hblank : Text.isBlank b = false := by
    rcases hsecond with rfl | rfl | hcode | hcode | hcode | hcode
    · decide
    · decide
    all_goals simp [Text.isBlank, hcode]
  intro c hc
  rcases List.mem_pair.1 hc with rfl | rfl
  · rcases hfirst with rfl | rfl <;> decide
  · exact hblank

/-- A word that passes the check holds a number; the line feed that the check passes over is a
blank. -/
theorem holdsNumber_of_isAsWord {word : List Char} (hword : isAsWord word = true) :
    HoldsNumber (String.ofList word) := by
  obtain ⟨a, b, r, rfl⟩ : ∃ a b r, word = a :: b :: r := by
    unfold isAsWord at hword
    split at hword
    · exact ⟨_, _, _, rfl⟩
    · exact absurd hword Bool.false_ne_true
  obtain ⟨digits, hsplit, hdigits, ha, hb⟩ : ∃ digits,
      (r = digits ∨ r = digits ++ ['\n']) ∧ (∀ c ∈ digits, isDecimal c = true) ∧
        sameLetter 'a' a = true ∧ sameLetter 's' b = true := by
    simp only [isAsWord, Bool.and_eq_true, List.all_eq_true] at hword
    obtain ⟨⟨⟨ha, hb⟩, -⟩, hdigits⟩ := hword
    refine ⟨_, ?_, hdigits, ha, hb⟩
    split
    · next hlast =>
      have hlast : r.getLast? = some '\n' := by simpa using hlast
      exact .inr (List.dropLast_append_getLast? _ hlast).symm
    · exact .inl rfl
  have hletters : IsAsLetters [a, b] :=
    ⟨a, b, rfl, capitalIs_of_sameLetter ha, capitalBegins_of_sameLetter hb⟩
  have hself : Text.strip ([a, b] ++ digits) = [a, b] ++ digits := by
    refine trim_eq_self_of_forall fun c hc => ?_
    rcases List.mem_append.1 hc with hc | hc
    · exact hletters.isBlank c hc
    · exact Numeral.isBlank_of_isDecimal (hdigits c hc)
  have hstrip : Text.strip (a :: b :: r) = [a, b] ++ digits := by
    rcases hsplit with rfl | rfl
    · exact hself
    · exact (trim_concat (by decide) _).trans hself
  exact ⟨[a, b], digits, by rw [String.toList_ofList, hstrip], .inr hletters, hdigits⟩

/-! ## Members -/

theorem integerText_eq_toString {n : Int} {s : String} (hs : integerText n = .ok s) :
    s = toString n := by
  have hwritten : Numeral.writeInt? n = some s := by
    unfold integerText at hs
    cases hwrite : Numeral.writeInt? n with
    | none => rw [hwrite] at hs; exact nomatch hs
    | some t =>
      rw [hwrite] at hs
      exact congrArg some (Except.ok.inj hs)
  rw [Numeral.writeInt?, Option.ite_none_right_eq_some] at hwritten
  exact (Option.some.inj hwritten.2).symm

theorem isNumberText_integerText {n : Int} {s : String} (hs : integerText n = .ok s) :
    IsNumberText s ↔ 0 ≤ n := by
  rw [integerText_eq_toString hs]
  cases n with
  | ofNat n =>
    refine iff_of_true (fun c hc => Numeral.isDecimal_of_isDigit ?_) (Int.natCast_nonneg n)
    have hdigits : (toString (Int.ofNat n)).toList = Nat.toDigits 10 n := by
      simp [toString, Int.repr, Nat.repr]
    rw [hdigits] at hc
    exact Numeral.isDigit_of_mem_toDigits c hc
  | negSucc n =>
    refine iff_of_false (fun hnumber => ?_) (by omega)
    have hsign : '-' ∈ (toString (Int.negSucc n)).toList := by
      simp [toString, Int.repr]
    exact absurd (hnumber '-' hsign) (by decide)

theorem isNumberText_dropAsLetters (s : String) :
    IsNumberText (String.ofList (dropAsLetters (Text.strip s.toList))) ↔ HoldsNumber s := by
  rw [holdsNumber_iff, IsNumberText, String.toList_ofList]

/-- The text of a member is a number exactly if the member tells one. -/
theorem isNumberText_asnText {member : Option Json} {s : String} (hs : asnText member = .ok s) :
    IsNumberText s ↔ TellsNumber member := by
  have hnothing : asnText member = .ok "" → (IsNumberText s ↔ True) := by
    intro hempty
    obtain rfl : "" = s := Except.ok.inj (hempty.symm.trans hs)
    exact iff_of_true (by decide) trivial
  cases member with
  | none => exact hnothing rfl
  | some v =>
    cases v with
    | int n => exact isNumberText_integerText hs
    | double x =>
      have hbind : asnText (some (.double x)) = x.toInt.bind integerText := rfl
      rw [hbind] at hs
      cases hx : x.toInt with
      | error f => rw [hx] at hs; exact nomatch hs
      | ok n =>
        rw [hx, Except.bind] at hs
        rw [isNumberText_integerText hs, TellsNumber]
        simp [hx]
    | text t =>
      obtain rfl := Except.ok.inj hs
      exact isNumberText_dropAsLetters t
    | _ => exact hnothing rfl

/-! ## Payloads -/

namespace IpInfo

/-- A payload whose number is taken from a member is read with a number exactly if the member tells
one. -/
theorem isNumberText_of_asnText {x : Except Fault IpInfo} {member : Option Json}
    {g : String → IpInfo} {i : IpInfo} (hi : x = .ok i)
    (hx : x = (asnText member).bind fun asn => .ok (g asn)) (hg : ∀ asn, (g asn).asn = asn) :
    IsNumberText i.asn ↔ TellsNumber member := by
  rw [hx] at hi
  cases hmember : asnText member with
  | error f => rw [hmember] at hi; exact nomatch hi
  | ok asn =>
    rw [hmember] at hi
    obtain rfl : g asn = i := Except.ok.inj hi
    rw [hg]
    exact isNumberText_asnText hmember

/-- The source whose number is checked. -/
theorem isNumberText_ofIpinfo {data : List (String × Json)} {i : IpInfo}
    (hi : ofIpinfo data = .ok i) : IsNumberText i.asn := by
  rw [ofIpinfo] at hi
  dsimp only at hi
  split at hi
  · next hword =>
    obtain rfl := Except.ok.inj hi
    exact (isNumberText_dropAsLetters _).2 (holdsNumber_of_isAsWord hword)
  · obtain rfl := Except.ok.inj hi
    exact (by decide : IsNumberText "")

theorem isNumberText_ofMaxmind {data : List (String × Json)} {i : IpInfo}
    (hi : ofMaxmind data = .ok i) : IsNumberText i.asn ↔ TellsNumber (maxmindNumber data) := by
  rw [ofMaxmind] at hi
  rw [maxmindNumber]
  cases htraits : Json.field? "traits" data with
  | none =>
    rw [htraits] at hi
    exact isNumberText_of_asnText hi rfl fun _ => rfl
  | some v =>
    rw [htraits] at hi
    cases v <;> exact isNumberText_of_asnText hi rfl fun _ => rfl

/-- The second value of a row, without its quotation marks. -/
def rowNumber (body : String) : String :=
  String.ofList (dropQuotes (Text.strip
    (((Text.strip body.toList).splitOnP (· == ',')).getD 1 [])))

theorem isNumberText_ofHackertarget {ip body : String} {i : IpInfo}
    (hi : ofHackertarget ip body = .ok (some i)) :
    IsNumberText i.asn ↔ HoldsNumber (rowNumber body) := by
  rw [ofHackertarget] at hi
  dsimp only at hi
  split at hi
  · cases hi
  · split at hi
    · next first number range owner more hpieces =>
      obtain rfl := Option.some.inj (Except.ok.inj hi)
      have hnumber : rowNumber body = String.ofList (dropQuotes (Text.strip number)) := by
        rw [rowNumber, hpieces]
        rfl
      rw [hnumber]
      exact isNumberText_dropAsLetters _
    · cases hi

/-- The first word of the member that holds number and owner. -/
def ipapiNumber (data : List (String × Json)) : String :=
  String.ofList ((words (textMember data "as").toList).headD [])

theorem isNumberText_ofIpapi {ip : String} {data : List (String × Json)} {i : IpInfo}
    (hi : ofIpapi ip data = .ok i) : IsNumberText i.asn ↔ HoldsNumber (ipapiNumber data) := by
  rw [ofIpapi] at hi
  rw [ipapiNumber]
  split at hi
  · next hwords =>
    obtain rfl := Except.ok.inj hi
    rw [hwords]
    exact iff_of_true (by decide : IsNumberText "") ((holdsNumber_iff "").2 (by decide))
  · next number owner hwords =>
    obtain rfl := Except.ok.inj hi
    rw [hwords]
    exact isNumberText_dropAsLetters _

end IpInfo

/-! ## The number of a family -/

/-- What is known of a family. -/
def Identities.of (ids : Identities) : Family → Option IpInfo
  | .ipv4 => ids.ipv4
  | .ipv6 => ids.ipv6

/-- The answers among which the number of a family is looked for: those of the sources of
identities, and behind them those of the sources of networks, where these are asked. -/
def Host.numberAnswers (h : Host) (settings : Settings) (j : Journal) (family : Family) :
    List IpInfo :=
  let known := IpInfo.ofFirstKnown (h.answersAbout settings j family)
  h.answersAbout settings j family ++
    if known.seeksNetwork then h.networksOf settings j family known.ip else []

section

variable {check : CheckType} {settings : Settings} {h : Host} {j : Journal} {ids : Identities}
  {family : Family} {i : IpInfo}

/-- A lookup that gives a result gives what the replies give. -/
theorem identities_of_lookUp
    (hids : ((lookUpIdentities check settings).runFrom h j).1 = .ok ids) :
    ids = h.identitiesFrom settings j check := by
  rw [lookUpIdentities, HostM.runFrom_bind_eq_ok_iff] at hids
  obtain ⟨u, hu, hids⟩ := hids
  have hworkers := (requireWorkers_eq_ok_iff h j _ u).1 hu
  have hsame := fun family => Host.completion_congr (h := h) family fun ip d hd =>
    nextReply_after_askSources check settings h j family ip hd
  rw [runFrom_requireWorkers h j hworkers, HostM.runFrom_bind_eq_ok_iff] at hids
  obtain ⟨answers, hanswers, hids⟩ := hids
  obtain ⟨-, rfl⟩ := (askSources_eq_ok_iff check settings h j answers).1 hanswers
  simp only [completions_eq_ok_iff hworkers, hsame, identityOf_questions] at hids
  exact hids.2.2

/-- Filling the network of a record takes the first number that is known in the answers, if it has
none of its own. -/
theorem Host.asn_withNetwork (h : Host) (settings : Settings) (j : Journal) (family : Family)
    (i : IpInfo) :
    (h.withNetwork settings j family i).asn = firstKnown (i.asn ::
      (if i.seeksNetwork then h.networksOf settings j family i.ip else []).map (·.asn)) := by
  rw [Host.withNetwork]
  by_cases hseeks : i.seeksNetwork = true
  · have hnone : i.asn = "" := by
      by_contra hknown
      have hidle := i.seeksNetwork_eq_false_iff.2 (.inr (.inl hknown))
      exact Bool.false_ne_true (hidle.symm.trans hseeks)
    rw [if_pos hseeks, if_pos hseeks, IpInfo.fillNetworkFrom_eq_withNumberAndOwner hnone, hnone]
    rfl
  · rw [if_neg hseeks, if_neg hseeks, List.map_nil, firstKnown_singleton]

/-- The number of a family is the first text that one of the answers has for it. -/
theorem asn_of_lookUp (hids : ((lookUpIdentities check settings).runFrom h j).1 = .ok ids)
    (hi : ids.of family = some i) :
    i.asn = firstKnown ((h.numberAnswers settings j family).map (·.asn)) := by
  have hgiven : ids.of family =
      (h.mergedFrom settings j check family).map (h.withNetwork settings j family) := by
    rw [identities_of_lookUp hids]
    cases family <;> rfl
  obtain ⟨merged, hmerged, rfl⟩ := Option.map_eq_some_iff.1 (hgiven.symm.trans hi)
  have hfirst : merged = IpInfo.ofFirstKnown (h.answersAbout settings j family) := by
    rw [Host.mergedFrom, Option.ite_none_right_eq_some] at hmerged
    exact (IpInfo.merged_eq_some_iff.1 hmerged.2).2
  have hnumber : merged.asn = firstKnown ((h.answersAbout settings j family).map (·.asn)) := by
    rw [hfirst]
    rfl
  rw [Host.asn_withNetwork, Host.numberAnswers, ← hfirst, List.map_append, firstKnown_append,
    ← List.singleton_append, firstKnown_append, firstKnown_singleton, hnumber]

end

/-- Of the source whose number is checked, what is taken for a number is one.  Of any other it is
one exactly if the payload tells one, so a word or a negative integer in the place of a number is
taken as it is.  The number of a family is the first text that an answer has for it, and is shown
behind the letters `AS`. -/
theorem number_of_network (data : List (String × Json)) (ip body : String) (check : CheckType)
    (settings : Settings) (h : Host) (j : Journal) :
    (∀ i, IpInfo.ofIpinfo data = .ok i → IsNumberText i.asn) ∧
    (∀ i, IpInfo.ofMaxmind data = .ok i →
      (IsNumberText i.asn ↔ TellsNumber (IpInfo.maxmindNumber data))) ∧
    (∀ i, IpInfo.ofCloudflare data = .ok i →
      (IsNumberText i.asn ↔ TellsNumber (Json.field? "asn" data))) ∧
    (∀ i, IpInfo.ofIpsb data = .ok i →
      (IsNumberText i.asn ↔ TellsNumber (Json.field? "asn" data))) ∧
    (∀ i, IpInfo.ofHackertarget ip body = .ok (some i) →
      (IsNumberText i.asn ↔ HoldsNumber (IpInfo.rowNumber body))) ∧
    (∀ i, IpInfo.ofIpapi ip data = .ok i →
      (IsNumberText i.asn ↔ HoldsNumber (IpInfo.ipapiNumber data))) ∧
    ∀ ids, ((lookUpIdentities check settings).runFrom h j).1 = .ok ids →
      ∀ family i, ids.of family = some i →
        i.asn = firstKnown ((h.numberAnswers settings j family).map (·.asn)) ∧
        (i.asn ≠ "" → ∀ language, ∃ label, Label.ofKey (family.name ++ "_asn") = .ok label ∧
          i.networkLine family.name language = .ok (label.line
            (if i.org = "" then "AS" ++ i.asn else networkText i.asn i.org) language)) :=
  ⟨fun _ => IpInfo.isNumberText_ofIpinfo, fun _ => IpInfo.isNumberText_ofMaxmind,
    fun _ hi => IpInfo.isNumberText_of_asnText hi rfl fun _ => rfl,
    fun _ hi => IpInfo.isNumberText_of_asnText hi rfl fun _ => rfl,
    fun _ => IpInfo.isNumberText_ofHackertarget, fun _ => IpInfo.isNumberText_ofIpapi,
    fun _ hids family _ hi => ⟨asn_of_lookUp hids hi, fun hasn language =>
      IpInfo.networkLine_of_asn_ne hasn family language⟩⟩

/-- A payload with a member for each source that answers with an object. -/
def sharedPayload : List (String × Json) :=
  [("org", .text "AS64500 Example"), ("asn", .text "as64500\t"), ("as", .text "AS64500 Example"),
    ("traits", .object [("autonomous_system_number", .int (-5))])]

/-- A row of values with a word in the place of the number. -/
def wordRow : String := networkRow "203.0.113.7" "NA" "203.0.113.0/24" "Example"

/-- A host of which one source tells address and country, and of whose network the first source
tells a word where the number should be and the second one the number. -/
def wordForNumber : Host where
  http := [
    ("ipv4 http://ipinfo.io",
      [.answered 200 "OK" "\x7b\"ip\": \"203.0.113.7\", \"country\": \"US\"\x7d"]),
    ("ipv4 https://api.hackertarget.com/aslookup/?q=203.0.113.7",
      [.answered 200 "OK" wordRow]),
    ("ipv4 http://ip-api.com/json/203.0.113.7?fields=as",
      [.answered 200 "OK" "\x7b\"as\": \"AS64500 Example\"\x7d"])]

/-- What the lookup on this host gives. -/
def wordForNumberInfo : IpInfo where
  ip := "203.0.113.7"
  asn := "NA"
  org := "Example"
  country := "US"

theorem lookUp_wordForNumber :
    ((lookUpIdentities .ipv4 {}).runFrom wordForNumber {}).1 =
      .ok { ipv4 := some wordForNumberInfo, ipv6 := none } :=
  HostM.eq_ok_of_toOption (by decide +kernel)

theorem number_of_network_wordForNumber :
    (IpInfo.ofIpinfo sharedPayload = .ok { asn := "64500", org := "Example" } ∧
      IsNumberText "64500") ∧
    (IpInfo.ofMaxmind sharedPayload = .ok { asn := "-5" } ∧ ¬IsNumberText "-5") ∧
    (IpInfo.ofCloudflare sharedPayload = .ok { asn := "64500" } ∧ IsNumberText "64500") ∧
    (IpInfo.ofIpsb sharedPayload = .ok { asn := "64500" } ∧ IsNumberText "64500") ∧
    (IpInfo.ofHackertarget "203.0.113.7" wordRow =
      .ok (some { ip := "203.0.113.7", asn := "NA", org := "Example" }) ∧ ¬HoldsNumber "NA") ∧
    (IpInfo.ofIpapi "203.0.113.7" sharedPayload =
      .ok { ip := "203.0.113.7", asn := "64500", org := "Example" } ∧ HoldsNumber "AS64500") ∧
    wordForNumberInfo.asn = firstKnown ((wordForNumber.numberAnswers {} {} .ipv4).map (·.asn)) ∧
    ∃ label, Label.ofKey "ipv4_asn" = .ok label ∧
      wordForNumberInfo.networkLine "ipv4" .english =
        .ok (label.line "ASNA Example" .english) := by
  obtain ⟨hipinfo, hmaxmind, hcloudflare, hipsb, hrow, hipapi, hlookup⟩ :=
    number_of_network sharedPayload "203.0.113.7" wordRow .ipv4 {} wordForNumber {}
  have hchecked : IpInfo.ofIpinfo sharedPayload = .ok { asn := "64500", org := "Example" } :=
    HostM.eq_ok_of_toOption (by decide +kernel)
  have hnegative : IpInfo.ofMaxmind sharedPayload = .ok { asn := "-5" } :=
    HostM.eq_ok_of_toOption (by decide +kernel)
  have hbelow : ¬TellsNumber (some (.int (-5))) := by
    rw [TellsNumber]
    decide
  have hflat : IpInfo.ofCloudflare sharedPayload = .ok { asn := "64500" } :=
    HostM.eq_ok_of_toOption (by decide +kernel)
  have hsmall : IpInfo.ofIpsb sharedPayload = .ok { asn := "64500" } :=
    HostM.eq_ok_of_toOption (by decide +kernel)
  have hletters : TellsNumber (Json.field? "asn" sharedPayload) :=
    ⟨['a', 's'], "64500".toList, by decide, .inr ⟨'a', 's', rfl, by decide, by decide⟩, by decide⟩
  have hword : IpInfo.ofHackertarget "203.0.113.7" wordRow =
      .ok (some { ip := "203.0.113.7", asn := "NA", org := "Example" }) :=
    HostM.eq_ok_of_toOption (by decide +kernel)
  have hpiece : IpInfo.rowNumber wordRow = "NA" := by decide +kernel
  have hobject : IpInfo.ofIpapi "203.0.113.7" sharedPayload =
      .ok { ip := "203.0.113.7", asn := "64500", org := "Example" } :=
    HostM.eq_ok_of_toOption (by decide +kernel)
  have hfirstWord : IpInfo.ipapiNumber sharedPayload = "AS64500" := by decide +kernel
  refine ⟨⟨hchecked, hipinfo _ hchecked⟩,
    ⟨hnegative, fun hi => hbelow ((hmaxmind _ hnegative).1 hi)⟩,
    ⟨hflat, (hcloudflare _ hflat).2 hletters⟩, ⟨hsmall, (hipsb _ hsmall).2 hletters⟩,
    ⟨hword, fun hi => ?_⟩, ⟨hobject, ?_⟩, ?_⟩
  · have hnumber := (hrow _ hword).2 (hpiece ▸ hi)
    exact absurd hnumber (by decide)
  · exact hfirstWord ▸ (hipapi _ hobject).1 (by decide)
  · obtain ⟨hfirst, hline⟩ := hlookup _ lookUp_wordForNumber .ipv4 wordForNumberInfo rfl
    exact ⟨hfirst, hline (by decide) .english⟩

/-- A word in the place of a number is taken for it: it is no number, it is found before the number
that another source tells, and so it is what a lookup gives. -/
theorem not_number_of_network :
    ¬(∀ data i, IpInfo.ofCloudflare data = .ok i → IsNumberText i.asn) ∧
    ¬∀ check settings h j ids, ((lookUpIdentities check settings).runFrom h j).1 = .ok ids →
      ∀ family i, ids.of family = some i → IsNumberText i.asn := by
  refine ⟨fun hall => ?_, fun hall => ?_⟩
  · have hword := hall [("asn", .text "unknown")] _ rfl
    exact absurd hword (by decide)
  · have hword := hall .ipv4 {} wordForNumber {} _ lookUp_wordForNumber .ipv4 wordForNumberInfo rfl
    exact absurd hword (by decide)

end HostReport
