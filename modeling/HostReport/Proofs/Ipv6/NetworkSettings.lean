import HostReport.Address.V4
import HostReport.Proofs.Ipv6.Listing
import HostReport.Proofs.Text.Line

/-!
# Files of network settings

Such a file has stanzas, each for an interface and a family, with a line for the mask of IPv4 or for
the length of IPv6.  The scanner knows no stanzas: it finds the first number of every such line
(`findAll_networkSetting`), and the first of them that is a length of use is told.  So a mask for
IPv4 is passed over only where its first number is no such length, as with most masks that are
written as octets (`Ipv4Mask.isPassedOver_iff`).
-/

namespace HostReport.Ipv6

open Text

/-- The words that stand before a length or a mask. -/
def settingWords : List String := ["prefix-length", "prefixlen", "netmask"]

/-- Whether a text holds none of these words, in whatever case. -/
def IsSilent (u : List Char) : Prop := ∀ w ∈ settingWords, ¬Says w.toList u

instance : DecidablePred IsSilent := fun _ => inferInstanceAs (Decidable (∀ w ∈ _, ¬_))

/-- A mask for IPv4, written as four octets or as the number of leading ones. -/
inductive Ipv4Mask where
  | dotted (mask : Ipv4)
  | length (ones : Nat) (one_le : 1 ≤ ones) (le : ones ≤ 32)

/-- How a mask is written. -/
def Ipv4Mask.text : Ipv4Mask → List Char
  | .dotted mask => mask.text.toList
  | .length ones _ _ => Nat.toDigits 10 ones

/-- The number that the written mask begins with. -/
def Ipv4Mask.firstNumber : Ipv4Mask → Nat
  | .dotted mask => mask.a.toNat
  | .length ones _ _ => ones

/-- What a stanza sets: a mask for IPv4, or the length of a prefix for IPv6. -/
inductive StanzaSetting where
  | inet (mask : Ipv4Mask)
  | inet6 (length : Nat)

namespace StanzaSetting

/-- The family as it is written. -/
def family : StanzaSetting → String
  | inet _ => "inet"
  | inet6 _ => "inet6"

/-- What is set, as it is written. -/
def text : StanzaSetting → List Char
  | inet mask => mask.text
  | inet6 length => Nat.toDigits 10 length

/-- The number that stands first. -/
def firstNumber : StanzaSetting → Nat
  | inet mask => mask.firstNumber
  | inet6 length => length

end StanzaSetting

/-- Whether a character may stand between a setting and its number. -/
def isGap (c : Char) : Bool := isBlank c || c == ':' || c == '='

/-- A stanza of an interface: its name and family, and a line for the mask among others that set
neither a mask nor a length. -/
structure Stanza where
  name : List Char
  setting : StanzaSetting
  indent : List Char
  before : List (List Char)
  behind : List (List Char)
  name_silent : (∀ c ∈ name, isGap c = false) ∨ IsSilent name
  indent_blank : ∀ c ∈ indent, isBlank c = true
  before_silent : ∀ l ∈ before, IsSilent l
  behind_silent : ∀ l ∈ behind, IsSilent l

namespace Stanza

variable (s : Stanza)

/-- The word that opens a stanza. -/
def opening : String := "iface"

/-- How the address is set. -/
def method : String := "static"

/-- The word before a mask or a length. -/
def maskWord : String := "netmask"

/-- The line that opens a stanza. -/
def heading : List Char :=
  opening.toList ++ ' ' :: (s.name ++ ' ' :: (s.setting.family.toList ++ ' ' :: method.toList))

/-- The line of the mask. -/
def maskLine : List Char := s.indent ++ (maskWord.toList ++ ' ' :: s.setting.text)

/-- The lines of a stanza. -/
def lines : List (List Char) := s.heading :: (s.before ++ s.maskLine :: s.behind)

end Stanza

/-! ## The scanner -/

/-- The words of settings, as they are read. -/
def settingWord : Scan Unit :=
  Scan.caseless "prefix-length" <|> Scan.caseless "prefixlen" <|> Scan.caseless "netmask"

/-- The number of a setting behind its word. -/
def settingNumber : Scan (List Char) := do
  let _ ← Scan.run1 isGap
  Scan.run1 isDecimal

theorem networkSetting_eq : networkSetting = settingWord >>= fun _ => settingNumber := rfl

section

variable {u v t : List Char}

theorem IsSilent.of_suffix (hu : IsSilent u) (ht : t <:+ u) : IsSilent t := by
  rintro w hw ⟨x, hx, hwx⟩
  exact hu w hw ⟨x, hx.trans ht.isInfix, hwx⟩

theorem settingWord_of_isSilent (ht : IsSilent t) : settingWord t = none := by
  have hword : ∀ w ∈ settingWords, Scan.caseless w t = none := by
    intro w hw
    cases hread : Scan.caselessChars w.toList t with
    | none => rw [Scan.caseless, hread]; rfl
    | some r =>
      obtain ⟨x, hx, rfl⟩ := Scan.caselessChars_eq_some_iff.1 hread
      exact absurd ⟨x, (List.prefix_append x r).isInfix, hx⟩ (ht w hw)
  rw [settingWord, Scan.orElse_apply, Scan.orElse_apply, hword "prefix-length" (by decide),
    hword "prefixlen" (by decide), hword "netmask" (by decide)]
  rfl

theorem suffix_of_settingWord {x : Unit × List Char} (hread : settingWord t = some x) :
    x.2 <:+ t := by
  rw [settingWord, Scan.orElse_apply, Scan.orElse_apply] at hread
  rcases Option.or_eq_some_iff.1 hread with hlong | ⟨-, hread⟩
  · exact Scan.suffix_of_caseless hlong
  · rcases Option.or_eq_some_iff.1 hread with hshort | ⟨-, hmask⟩
    · exact Scan.suffix_of_caseless hshort
    · exact Scan.suffix_of_caseless hmask

/-- Whether a character stands between words. -/
def IsSeparator (c : Char) : Prop := c = ' ' ∨ c = '\n'

theorem endsAt_settingWord (hv : ∀ c ∈ v.head?, IsSeparator c) : Scan.EndsAt settingWord v := by
  have hword : ∀ w ∈ settingWords, Scan.EndsAt (Scan.caseless w) v := by
    intro w hw
    refine Scan.endsAt_caseless fun c hc a ha => ?_
    rcases hv c hc with rfl | rfl
    · revert a
      revert w
      decide
    · revert a
      revert w
      decide
  exact (hword _ (by decide)).orElse ((hword _ (by decide)).orElse (hword _ (by decide)))

/-- A text without a setting is passed over. -/
theorem findAll_silent_append (hu : IsSilent u) (hv : ∀ c ∈ v.head?, IsSeparator c) :
    Scan.findAll networkSetting (u ++ v) = Scan.findAll networkSetting v := by
  refine Scan.findAll_append_of_none fun t _ ht => ?_
  have hword := endsAt_settingWord hv t
  rw [settingWord_of_isSilent (hu.of_suffix ht)] at hword
  exact Scan.bind_of_none hword

/-- Whether a character may begin the word of a setting. -/
def opensSetting (c : Char) : Bool := sameLetter 'p' c || sameLetter 'n' c

theorem settingWord_cons {c : Char} (hc : opensSetting c = false) (s : List Char) :
    settingWord (c :: s) = none := by
  rw [opensSetting, Bool.or_eq_false_iff] at hc
  simp [settingWord, Scan.orElse_apply, Scan.caseless, Scan.caselessChars, hc]

theorem findAll_append_of_opensSetting (hu : ∀ c ∈ u, opensSetting c = false) (v : List Char) :
    Scan.findAll networkSetting (u ++ v) = Scan.findAll networkSetting v := by
  refine Scan.findAll_append_of_none fun t hne ht => ?_
  obtain ⟨c, t, rfl⟩ := List.exists_cons_of_ne_nil hne
  exact Scan.bind_of_none (settingWord_cons (hu c (ht.subset List.mem_cons_self)) _)

theorem opensSetting_eq_false {c : Char} (hc : c.toNat < 65 ∨ 122 < c.toNat) :
    opensSetting c = false := by
  have hlower : c.toLower = c := toLower_eq_self (by omega)
  have hletter (l : Char) (hl : 65 ≤ l.toNat ∧ l.toNat ≤ 122) : (c == l) = false := by
    rw [beq_eq_false_iff_ne]
    rintro rfl
    omega
  simp [opensSetting, sameLetter, hlower, hletter]

theorem opensSetting_of_isBlank {c : Char} (hc : isBlank c = true) : opensSetting c = false := by
  simp only [isBlank, Bool.or_eq_true, Bool.and_eq_true, decide_eq_true_eq, beq_iff_eq] at hc
  exact opensSetting_eq_false (by omega)

theorem opensSetting_of_isDigit {c : Char} (hc : c.isDigit = true) : opensSetting c = false := by
  have hrange := Numeral.toNat_of_isDigit hc
  exact opensSetting_eq_false (by omega)

end

theorem isGap_of_isDigit {c : Char} (hc : c.isDigit = true) : isGap c = false := by
  have hrange := Numeral.toNat_of_isDigit hc
  have hcolon : c ≠ ':' := by
    rintro rfl
    exact absurd hc (by decide)
  have hequals : c ≠ '=' := by
    rintro rfl
    exact absurd hc (by decide)
  simp [isGap, isBlank_of_isHexOrColon (isHexOrColon_of_isDigit hc), hcolon, hequals]

/-! ## Stanzas -/

theorem toList_text (ip : Ipv4) :
    ip.text.toList = Nat.toDigits 10 ip.a.toNat ++ '.' :: (Nat.toDigits 10 ip.b.toNat ++
      '.' :: (Nat.toDigits 10 ip.c.toNat ++ '.' :: Nat.toDigits 10 ip.d.toNat)) := by
  simp [Ipv4.text]
  rfl

namespace StanzaSetting

/-- What is written behind the first number. -/
def rest : StanzaSetting → List Char
  | inet (.dotted mask) => '.' :: (Nat.toDigits 10 mask.b.toNat ++
      '.' :: (Nat.toDigits 10 mask.c.toNat ++ '.' :: Nat.toDigits 10 mask.d.toNat))
  | inet (.length _ _ _) => []
  | inet6 _ => []

variable (setting : StanzaSetting)

theorem text_eq : setting.text = Nat.toDigits 10 setting.firstNumber ++ setting.rest := by
  cases setting with
  | inet mask =>
    cases mask with
    | dotted mask => exact toList_text mask
    | length ones _ _ => exact (List.append_nil _).symm
  | inet6 length => exact (List.append_nil _).symm

theorem family_mem : setting.family ∈ ["inet", "inet6"] := by
  cases setting with
  | inet mask => exact List.mem_cons_self
  | inet6 length => exact List.mem_cons_of_mem _ List.mem_cons_self

theorem exists_family_eq : ∃ r, setting.family.toList = 'i' :: r := by
  cases setting with
  | inet mask =>
    have hword : "inet".toList = 'i' :: "net".toList := by decide
    exact ⟨_, hword⟩
  | inet6 length =>
    have hword : "inet6".toList = 'i' :: "net6".toList := by decide
    exact ⟨_, hword⟩

theorem head?_text_append (s : List Char) :
    ∀ c ∈ (setting.text ++ s).head?, isGap c = false := by
  rw [text_eq, List.append_assoc]
  exact Scan.head?_append_of_forall Nat.toDigits_ne_nil
    (fun c hc => isGap_of_isDigit (Numeral.isDigit_of_mem_toDigits c hc)) _

/-- The first number ends where the rest begins. -/
theorem head?_rest_append {c : Char} (hc : isDecimal c = false) (s : List Char) :
    ∀ d ∈ (setting.rest ++ c :: s).head?, isDecimal d = false := by
  intro d hd
  cases setting with
  | inet mask =>
    cases mask with
    | dotted mask =>
      obtain rfl : '.' = d := Option.some.inj hd
      decide
    | length ones _ _ =>
      obtain rfl : c = d := Option.some.inj hd
      exact hc
  | inet6 length =>
    obtain rfl : c = d := Option.some.inj hd
    exact hc

theorem opensSetting_of_mem_rest : ∀ c ∈ setting.rest, opensSetting c = false := by
  have hdigits (n : Nat) : ∀ c ∈ Nat.toDigits 10 n, opensSetting c = false :=
    fun c hc => opensSetting_of_isDigit (Numeral.isDigit_of_mem_toDigits c hc)
  have hpoint : opensSetting '.' = false := by decide
  intro c hc
  cases setting with
  | inet mask =>
    cases mask with
    | dotted mask =>
      simp only [rest, List.mem_cons, List.mem_append] at hc
      rcases hc with rfl | hb | rfl | hc | rfl | hd
      · exact hpoint
      · exact hdigits _ c hb
      · exact hpoint
      · exact hdigits _ c hc
      · exact hpoint
      · exact hdigits _ c hd
    | length ones _ _ => exact absurd hc List.not_mem_nil
  | inet6 length => exact absurd hc List.not_mem_nil

end StanzaSetting

/-- Lines without a setting are passed over. -/
theorem findAll_unlines_append_of_isSilent {ls : List (List Char)} (hls : ∀ l ∈ ls, IsSilent l)
    (more : List Char) :
    Scan.findAll networkSetting (unlines ls ++ more) = Scan.findAll networkSetting more := by
  induction ls with
  | nil => rfl
  | cons l ls ih =>
    obtain ⟨hl, hls⟩ := List.forall_mem_cons.1 hls
    rw [unlines_cons, List.append_assoc, List.cons_append]
    calc Scan.findAll networkSetting (l ++ '\n' :: (unlines ls ++ more))
      _ = Scan.findAll networkSetting (['\n'] ++ (unlines ls ++ more)) :=
          findAll_silent_append hl (by simp [IsSeparator])
      _ = Scan.findAll networkSetting (unlines ls ++ more) :=
          findAll_append_of_opensSetting (by decide) _
      _ = Scan.findAll networkSetting more := ih hls

namespace Stanza

variable (s : Stanza) (more : List Char)

/-- No setting begins in the name of an interface. -/
theorem findAll_name_append {c : Char} (hc : isGap c = false) (hdecimal : isDecimal c = false) :
    Scan.findAll networkSetting (s.name ++ ' ' :: c :: more) =
      Scan.findAll networkSetting (' ' :: c :: more) := by
  rcases s.name_silent with hgap | hsilent
  · refine Scan.findAll_append_of_none fun t _ ht => ?_
    have hword := endsAt_settingWord (v := ' ' :: c :: more) (by simp [IsSeparator]) t
    rw [networkSetting_eq]
    cases hread : settingWord t with
    | none =>
      rw [hread] at hword
      exact Scan.bind_of_none hword
    | some x =>
      -- the word ends within the name, where no gap follows it, or with the name
      rw [hread] at hword
      rw [Scan.bind_of_some hword]
      cases hx : x.2 with
      | nil =>
        have hspace : Scan.run1 isGap (' ' :: c :: more) = some ([' '], c :: more) :=
          Scan.run1_append (u := [' ']) (by decide) (by decide) (by simpa using hc)
        rw [List.nil_append, settingNumber, Scan.bind_of_some hspace]
        exact Scan.run1_eq_none (by simpa using hdecimal)
      | cons d r =>
        have hd : d ∈ x.2 := hx ▸ List.mem_cons_self
        have hname : isGap d = false := hgap d ((suffix_of_settingWord hread).trans ht |>.subset hd)
        exact Scan.bind_of_none (Scan.run1_eq_none (by simpa using hname))
  · exact findAll_silent_append hsilent (by simp [IsSeparator])

theorem findAll_heading_append :
    Scan.findAll networkSetting (s.heading ++ '\n' :: more) = Scan.findAll networkSetting more := by
  have hspace : ∀ c ∈ [' '], opensSetting c = false := by decide
  have hend : ∀ c ∈ ['\n'], opensSetting c = false := by decide
  have hopening : IsSilent opening.toList := by decide
  have hfamilies : ∀ f ∈ ["inet", "inet6"], IsSilent (f.toList ++ ' ' :: method.toList) := by decide
  have hfamily := hfamilies _ s.setting.family_mem
  have hname : Scan.findAll networkSetting (s.name ++ ' ' ::
        (s.setting.family.toList ++ ' ' :: method.toList ++ '\n' :: more)) =
      Scan.findAll networkSetting (' ' ::
        (s.setting.family.toList ++ ' ' :: method.toList ++ '\n' :: more)) := by
    obtain ⟨r, hr⟩ := s.setting.exists_family_eq
    rw [hr]
    exact s.findAll_name_append _ (by decide) (by decide)
  have hchars : s.heading ++ '\n' :: more = opening.toList ++ ([' '] ++ (s.name ++ ' ' ::
      (s.setting.family.toList ++ ' ' :: method.toList ++ '\n' :: more))) := by
    simp [heading]
  rw [hchars]
  calc Scan.findAll networkSetting _
    _ = Scan.findAll networkSetting ([' '] ++ _) :=
        findAll_silent_append hopening (by simp [IsSeparator])
    _ = Scan.findAll networkSetting (s.name ++ _) := findAll_append_of_opensSetting hspace _
    _ = Scan.findAll networkSetting ([' '] ++ _) := hname
    _ = Scan.findAll networkSetting
          (s.setting.family.toList ++ ' ' :: method.toList ++ '\n' :: more) :=
        findAll_append_of_opensSetting hspace _
    _ = Scan.findAll networkSetting (['\n'] ++ more) :=
        findAll_silent_append hfamily (by simp [IsSeparator])
    _ = Scan.findAll networkSetting more := findAll_append_of_opensSetting hend _

/-- In the line of the mask the first number is found. -/
theorem findAll_maskLine_append :
    Scan.findAll networkSetting (s.maskLine ++ '\n' :: more) =
      Nat.toDigits 10 s.setting.firstNumber :: Scan.findAll networkSetting more := by
  have hend : ∀ c ∈ ['\n'], opensSetting c = false := by decide
  have hdigits := Numeral.isDigit_of_mem_toDigits (n := s.setting.firstNumber)
  have hword : settingWord (maskWord.toList ++ ' ' :: (s.setting.text ++ '\n' :: more)) =
      some ((), ' ' :: (s.setting.text ++ '\n' :: more)) := rfl
  have hgap : Scan.run1 isGap (' ' :: (s.setting.text ++ '\n' :: more)) =
      some ([' '], s.setting.text ++ '\n' :: more) :=
    Scan.run1_append (u := [' ']) (by decide) (by decide) (s.setting.head?_text_append _)
  have hnumber : Scan.run1 isDecimal (s.setting.text ++ '\n' :: more) =
      some (Nat.toDigits 10 s.setting.firstNumber, s.setting.rest ++ '\n' :: more) := by
    rw [s.setting.text_eq, List.append_assoc]
    exact Scan.run1_append Nat.toDigits_ne_nil
      (fun c hc => Numeral.isDecimal_of_isDigit (hdigits c hc))
      (s.setting.head?_rest_append (by decide) more)
  have hread : networkSetting (maskWord.toList ++ ' ' :: (s.setting.text ++ '\n' :: more)) =
      some (Nat.toDigits 10 s.setting.firstNumber, s.setting.rest ++ '\n' :: more) := by
    rw [networkSetting_eq, Scan.bind_of_some hword, settingNumber, Scan.bind_of_some hgap, hnumber]
  have hchars : s.maskLine ++ '\n' :: more =
      s.indent ++ (maskWord.toList ++ ' ' :: (s.setting.text ++ '\n' :: more)) := by
    simp [maskLine]
  have hindent : ∀ c ∈ s.indent, opensSetting c = false :=
    fun c hc => opensSetting_of_isBlank (s.indent_blank c hc)
  have hne : maskWord.toList ++ ' ' :: Nat.toDigits 10 s.setting.firstNumber ≠ [] :=
    List.append_ne_nil_of_right_ne_nil _ (List.cons_ne_nil _ _)
  have hfound : maskWord.toList ++ ' ' :: (s.setting.text ++ '\n' :: more) =
      (maskWord.toList ++ ' ' :: Nat.toDigits 10 s.setting.firstNumber) ++
        (s.setting.rest ++ '\n' :: more) := by
    rw [s.setting.text_eq]
    simp
  rw [hchars, findAll_append_of_opensSetting hindent]
  rw [hfound] at hread ⊢
  rw [Scan.findAll_append_of_some hne hread,
    findAll_append_of_opensSetting s.setting.opensSetting_of_mem_rest]
  exact congrArg _ (findAll_append_of_opensSetting (u := ['\n']) hend more)

/-- In a stanza the first number of its setting is found, and nothing else. -/
theorem findAll_lines_append :
    Scan.findAll networkSetting (unlines s.lines ++ more) =
      Nat.toDigits 10 s.setting.firstNumber :: Scan.findAll networkSetting more := by
  rw [lines, unlines_cons, unlines_append, unlines_cons, List.append_assoc, List.cons_append,
    List.append_assoc, List.append_assoc, List.cons_append, findAll_heading_append,
    findAll_unlines_append_of_isSilent s.before_silent, findAll_maskLine_append,
    findAll_unlines_append_of_isSilent s.behind_silent]

end Stanza

/-! ## Whole files -/

theorem findAll_networkSetting (stanzas : List Stanza) :
    Scan.findAll networkSetting (unlines (stanzas.flatMap Stanza.lines)) =
      (stanzas.map fun s => s.setting.firstNumber).map (Nat.toDigits 10) := by
  induction stanzas with
  | nil => rfl
  | cons s stanzas ih =>
    rw [List.flatMap_cons, unlines_append, s.findAll_lines_append, ih]
    rfl

theorem endsAt_networkSetting : Scan.EndsAt networkSetting ['\n'] := by
  have hword : Scan.EndsAt settingWord ['\n'] := endsAt_settingWord (by simp [IsSeparator])
  have hdecimal : Scan.EndsAt (Scan.run1 isDecimal) ['\n'] := Scan.endsAt_run1 (by decide)
  have hnumber : Scan.EndsAt settingNumber ['\n'] :=
    Scan.endsAt_run1_bind_of_none (fun _ => hdecimal) (fun _ => rfl) fun _ => rfl
  exact hword.bind fun _ => hnumber

/-- A file tells the first length of use among the first numbers of its stanzas. -/
theorem ofNetworkSettings_eq {stanzas : List Stanza} {text : List Char}
    (htext : IsWrittenAs text (stanzas.flatMap Stanza.lines)) :
    ofNetworkSettings (String.ofList text) =
      firstOfUse (stanzas.map fun s => s.setting.firstNumber) := by
  rw [ofNetworkSettings, String.toList_ofList,
    Scan.findAll_of_isWrittenAs endsAt_networkSetting rfl htext, findAll_networkSetting,
    firstValid_map_toDigits]

/-- The mask for IPv4, if the stanza sets one. -/
def Stanza.mask? (s : Stanza) : Option Ipv4Mask :=
  match s.setting with
  | .inet mask => some mask
  | .inet6 _ => none

/-- The length for IPv6, if the stanza sets one. -/
def Stanza.length? (s : Stanza) : Option Nat :=
  match s.setting with
  | .inet _ => none
  | .inet6 length => some length

/-- The masks for IPv4 in a file. -/
def masksOf (stanzas : List Stanza) : List Ipv4Mask := stanzas.filterMap Stanza.mask?

/-- The lengths for IPv6 in a file. -/
def lengthsOf (stanzas : List Stanza) : List Nat := stanzas.filterMap Stanza.length?

theorem Stanza.of_setting_inet {s : Stanza} {mask : Ipv4Mask} (h : s.setting = .inet mask) :
    s.mask? = some mask ∧ s.length? = none := by
  rw [mask?, length?, h]
  exact ⟨rfl, rfl⟩

theorem Stanza.of_setting_inet6 {s : Stanza} {length : Nat} (h : s.setting = .inet6 length) :
    s.mask? = none ∧ s.length? = some length := by
  rw [mask?, length?, h]
  exact ⟨rfl, rfl⟩

/-- Whether a mask is written as octets of which the first is no length of use. -/
def Ipv4Mask.IsPassedOver (mask : Ipv4Mask) : Prop :=
  ∃ octets, mask = dotted octets ∧ (octets.a = 0 ∨ 128 < octets.a)

theorem Ipv4Mask.isPassedOver_iff (mask : Ipv4Mask) :
    mask.IsPassedOver ↔ ¬IsOfUse mask.firstNumber := by
  cases mask with
  | dotted octets =>
    have hzero : octets.a = 0 ↔ octets.a.toNat = 0 := by
      rw [← UInt8.toNat_inj]
      rfl
    have hhigh : 128 < octets.a ↔ 128 < octets.a.toNat := UInt8.lt_iff_toNat_lt
    have hoctets : (dotted octets).IsPassedOver ↔ octets.a = 0 ∨ 128 < octets.a := by
      simp [IsPassedOver]
    rw [hoctets, hzero, hhigh, firstNumber, IsOfUse]
    omega
  | length ones one_le le =>
    have hlength : ¬(length ones one_le le).IsPassedOver := by simp [IsPassedOver]
    have huse : IsOfUse ones := ⟨one_le, by omega⟩
    exact iff_of_false hlength (not_not_intro huse)

theorem Ipv4Mask.not_isTooLong (mask : Ipv4Mask) : ¬IsTooLong mask.firstNumber := by
  cases mask with
  | dotted octets =>
    have hoctet : octets.a.toNat < 256 := octets.a.toNat_lt
    exact not_isTooLong_of_lt (by rw [firstNumber]; omega)
  | length ones _ le => exact not_isTooLong_of_lt (by rw [firstNumber]; omega)

/-- Of a netmask that is written as octets only `128.0.0.0` begins with a length of use. -/
theorem leadingOnes_passedOver_iff {octets : Ipv4} {ones : Nat} (hones : ones ≤ 32)
    (hmask : octets.toNat = 2 ^ 32 - 2 ^ (32 - ones)) :
    (Ipv4Mask.dotted octets).IsPassedOver ↔ ones ≠ 1 := by
  have hfirst : octets.a.toNat = octets.toNat / 2 ^ 24 := by
    have hb : octets.b.toNat < 256 := octets.b.toNat_lt
    have hc : octets.c.toNat < 256 := octets.c.toNat_lt
    have hd : octets.d.toNat < 256 := octets.d.toNat_lt
    simp only [Ipv4.toNat, Bytes.toNat, List.foldl_cons, List.foldl_nil]
    omega
  have hall : ∀ n ≤ 32, ¬IsOfUse ((2 ^ 32 - 2 ^ (32 - n)) / 2 ^ 24) ↔ n ≠ 1 := by decide
  rw [Ipv4Mask.isPassedOver_iff, Ipv4Mask.firstNumber, hfirst, hmask]
  exact hall ones hones

/-- Where the masks for IPv4 are passed over, the lengths for IPv6 alone count. -/
theorem firstOfUse_firstNumbers {stanzas : List Stanza}
    (hmasks : ∀ mask ∈ masksOf stanzas, mask.IsPassedOver) :
    firstOfUse (stanzas.map fun s => s.setting.firstNumber) = firstOfUse (lengthsOf stanzas) := by
  induction stanzas with
  | nil => rfl
  | cons s stanzas ih =>
    rw [List.map_cons]
    cases hsetting : s.setting with
    | inet mask =>
      obtain ⟨hmask, hlength⟩ := Stanza.of_setting_inet hsetting
      rw [masksOf, List.filterMap_cons_some hmask] at hmasks
      obtain ⟨hover, hmasks⟩ := List.forall_mem_cons.1 hmasks
      have huse : ¬IsOfUse mask.firstNumber := mask.isPassedOver_iff.1 hover
      rw [StanzaSetting.firstNumber, firstOfUse_cons_of_not huse mask.not_isTooLong, ih hmasks,
        lengthsOf, lengthsOf, List.filterMap_cons_none hlength]
    | inet6 length =>
      obtain ⟨hmask, hlength⟩ := Stanza.of_setting_inet6 hsetting
      rw [masksOf, List.filterMap_cons_none hmask] at hmasks
      rw [lengthsOf, List.filterMap_cons_some hlength]
      exact firstOfUse_cons_congr length (ih hmasks)

/-- The stanzas for IPv4 alone. -/
def inetOnly (stanzas : List Stanza) : List Stanza := stanzas.filter fun s => s.length?.isNone

theorem masksOf_inetOnly (stanzas : List Stanza) :
    masksOf (inetOnly stanzas) = masksOf stanzas := by
  rw [masksOf, inetOnly, List.filterMap_filter]
  refine List.filterMap_congr fun s _ => ?_
  cases hsetting : s.setting with
  | inet mask =>
    rw [(Stanza.of_setting_inet hsetting).2]
    rfl
  | inet6 length =>
    rw [(Stanza.of_setting_inet6 hsetting).1, (Stanza.of_setting_inet6 hsetting).2]
    rfl

theorem lengthsOf_inetOnly (stanzas : List Stanza) : lengthsOf (inetOnly stanzas) = [] := by
  refine List.filterMap_eq_nil_iff.2 fun s hs => ?_
  exact Option.isNone_iff_eq_none.1 (List.mem_filter.1 hs).2

/-- The first numbers of a file's stanzas decide, those of IPv4 masks among them.  The lengths for
IPv6 decide alone, whatever their stanzas and wherever they stand, exactly if every IPv4 mask of the
file is written as octets of which the first is no length of use; among netmasks that is so for all
but `128.0.0.0`. -/
theorem ofNetworkSettings_inet6_alone_iff {stanzas : List Stanza} {text : List Char}
    (htext : IsWrittenAs text (stanzas.flatMap Stanza.lines)) :
    ofNetworkSettings (String.ofList text) =
        firstOfUse (stanzas.map fun s => s.setting.firstNumber) ∧
      ((∀ stanzas' text', masksOf stanzas' = masksOf stanzas →
          IsWrittenAs text' (stanzas'.flatMap Stanza.lines) →
          ofNetworkSettings (String.ofList text') = firstOfUse (lengthsOf stanzas')) ↔
        ∀ mask ∈ masksOf stanzas, mask.IsPassedOver) ∧
      ∀ (octets : Ipv4) (ones : Nat), ones ≤ 32 → octets.toNat = 2 ^ 32 - 2 ^ (32 - ones) →
        ((Ipv4Mask.dotted octets).IsPassedOver ↔ ones ≠ 1) := by
  refine ⟨ofNetworkSettings_eq htext, ⟨fun halone mask hmask => ?_, fun hmasks => ?_⟩,
    fun octets ones => leadingOnes_passedOver_iff⟩
  · -- the file of the stanzas for IPv4 alone tells nothing, so none of their numbers is of use
    have hnothing := halone _ _ (masksOf_inetOnly stanzas) (.inl rfl)
    rw [ofNetworkSettings_eq (.inl rfl), lengthsOf_inetOnly, firstOfUse_nil,
      firstOfUse_eq_none_iff] at hnothing
    rw [← masksOf_inetOnly] at hmask
    obtain ⟨s, hs, hsmask⟩ := List.mem_filterMap.1 hmask
    have hsetting : s.setting.firstNumber = mask.firstNumber := by
      rw [Stanza.mask?] at hsmask
      cases hsetting : s.setting with
      | inet mask' =>
        rw [hsetting] at hsmask
        rw [Option.some.inj hsmask]
        rfl
      | inet6 length =>
        rw [hsetting] at hsmask
        exact nomatch hsmask
    have hnumber := (hnothing _ (List.mem_map_of_mem hs)).1
    rw [hsetting] at hnumber
    exact mask.isPassedOver_iff.2 hnumber
  · intro stanzas' text' hsame htext'
    rw [ofNetworkSettings_eq htext', firstOfUse_firstNumbers (hsame ▸ hmasks)]

/-- A stanza of the first wired interface, with nothing in it but its setting. -/
def wiredStanza (setting : StanzaSetting) : Stanza where
  name := "eth0".toList
  setting := setting
  indent := ['\t']
  before := []
  behind := []
  name_silent := .inl (by decide)
  indent_blank := by decide
  before_silent := nofun
  behind_silent := nofun

/-- A file in which the mask for IPv4 is written as octets. -/
def octetStanzas : List Stanza :=
  [wiredStanza (.inet (.dotted ⟨255, 255, 255, 0⟩)), wiredStanza (.inet6 64)]

/-- A file in which the mask for IPv4 is written as a length. -/
def lengthStanzas : List Stanza :=
  [wiredStanza (.inet (.length 24 (by decide) (by decide))), wiredStanza (.inet6 64)]

/-- Octets before a length for IPv6 do not count. -/
theorem ofNetworkSettings_inet6_alone_iff_octetStanzas :
    IsWrittenAs (unlines (octetStanzas.flatMap Stanza.lines))
        (octetStanzas.flatMap Stanza.lines) ∧
      ofNetworkSettings (String.ofList (unlines (octetStanzas.flatMap Stanza.lines))) =
        .ok (some 64) := by
  have htext : IsWrittenAs (unlines (octetStanzas.flatMap Stanza.lines))
      (octetStanzas.flatMap Stanza.lines) := .inl rfl
  have hmasks : ∀ mask ∈ masksOf octetStanzas, mask.IsPassedOver := by
    have hmask : masksOf octetStanzas = [.dotted ⟨255, 255, 255, 0⟩] := rfl
    rw [hmask]
    exact List.forall_mem_singleton.2 ⟨_, rfl, .inr (by decide)⟩
  have halone := (ofNetworkSettings_inet6_alone_iff htext).2.1.2 hmasks _ _ rfl htext
  exact ⟨htext, halone⟩

/-- A mask for IPv4 may decide, where it is written as a length. -/
theorem not_ofNetworkSettings_inet6_alone :
    ¬∀ (stanzas : List Stanza) (text : List Char),
      IsWrittenAs text (stanzas.flatMap Stanza.lines) →
      ofNetworkSettings (String.ofList text) = firstOfUse (lengthsOf stanzas) := by
  intro halone
  have hfile := halone lengthStanzas _ (.inl rfl)
  rw [ofNetworkSettings_eq (.inl rfl)] at hfile
  have hfound : firstOfUse (lengthStanzas.map fun s => s.setting.firstNumber) =
    .ok (some 24) := rfl
  have hown : firstOfUse (lengthsOf lengthStanzas) = .ok (some 64) := rfl
  rw [hfound, hown] at hfile
  exact absurd (Option.some.inj (Except.ok.inj hfile)) (by decide)

end HostReport.Ipv6
