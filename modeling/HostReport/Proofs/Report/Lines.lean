import HostReport.Proofs.GeoIp.FanIn
import HostReport.Proofs.Http.Fetch
import HostReport.Proofs.Reachability

/-!
# A report as lines

Both parts of a report are lines one below the other, each with its label and its value.  A line of
the system part is about no address family, a line of the network part about one, and the network
part has lines only about the families that were asked about.
-/

namespace HostReport

open HostM

/-- The text of lines, each a label with a value. -/
def linesText (lines : List (Label × String)) (language : Language) : String :=
  String.join (lines.map fun l => l.1.line l.2 language)

section

variable (language : Language)

theorem linesText_nil : linesText [] language = "" := rfl

theorem linesText_append (ls ls' : List (Label × String)) :
    linesText (ls ++ ls') language = linesText ls language ++ linesText ls' language := by
  apply String.toList_injective
  simp [linesText]

theorem linesText_singleton (l : Label × String) :
    linesText [l] language = l.1.line l.2 language := by
  apply String.toList_injective
  simp [linesText]

end

theorem Label.mem_all (l : Label) : l ∈ all := by
  cases l <;> decide

/-- The family that a line is about, if it is about one. -/
def Label.family? : Label → Option Family
  | .ipv4Asn | .ipv4Location => some .ipv4
  | .ipv6Asn | .ipv6Location | .ipv6Mask => some .ipv6
  | _ => none

/-! ## The system part -/

namespace SystemInfo

theorem render_eq (i : SystemInfo) (language : Language) :
    i.render language = linesText (i.lines language) language := rfl

theorem mem_lines_iff {i : SystemInfo} {language : Language} {l : Label} {value : String} :
    (l, value) ∈ i.lines language ↔ i.shown language l = some value := by
  rw [lines, List.mem_filterMap]
  simp only [Option.map_eq_some_iff, Prod.mk.injEq]
  constructor
  · rintro ⟨_, -, _, hshown, rfl, rfl⟩
    exact hshown
  · exact fun hshown => ⟨l, l.mem_all, value, hshown, rfl, rfl⟩

/-- The system part has no line about a family. -/
theorem family?_of_mem_lines {i : SystemInfo} {language : Language} {l : Label × String}
    (hl : l ∈ i.lines language) : l.1.family? = none := by
  obtain ⟨label, -, hshown⟩ := List.mem_filterMap.1 hl
  obtain ⟨value, hvalue, rfl⟩ := Option.map_eq_some_iff.1 hshown
  cases label with
  | ipv4Asn => exact nomatch hvalue
  | ipv4Location => exact nomatch hvalue
  | ipv6Asn => exact nomatch hvalue
  | ipv6Location => exact nomatch hvalue
  | ipv6Mask => exact nomatch hvalue
  | _ => rfl

end SystemInfo

/-! ## Blocks of lines about families -/

/-- Whether a text consists of lines about these families. -/
def IsBlockOver (families : List Family) (language : Language) (text : String) : Prop :=
  ∃ lines, text = linesText lines language ∧ ∀ l ∈ lines, ∃ f ∈ families, l.1.family? = some f

namespace IsBlockOver

variable {families : List Family} {language : Language}

theorem empty : IsBlockOver families language "" :=
  ⟨[], rfl, fun _ hl => absurd hl List.not_mem_nil⟩

theorem line {l : Label} {f : Family} (hl : l.family? = some f) (hf : f ∈ families)
    (value : String) : IsBlockOver families language (l.line value language) := by
  refine ⟨[(l, value)], (linesText_singleton language (l, value)).symm, fun l' hl' => ?_⟩
  rw [List.mem_singleton.1 hl']
  exact ⟨f, hf, hl⟩

theorem append {text text' : String} (htext : IsBlockOver families language text)
    (htext' : IsBlockOver families language text') :
    IsBlockOver families language (text ++ text') := by
  obtain ⟨lines, rfl, hlines⟩ := htext
  obtain ⟨lines', rfl, hlines'⟩ := htext'
  refine ⟨lines ++ lines', (linesText_append language lines lines').symm, fun l hl => ?_⟩
  rcases List.mem_append.1 hl with hl | hl
  · exact hlines l hl
  · exact hlines' l hl

end IsBlockOver

/-! ## The network part -/

/-- The labels of a family are found by their keys. -/
theorem Label.ofKey_family (family : Family) :
    (∃ l, ofKey (family.name ++ "_asn") = .ok l ∧ l.family? = some family) ∧
      ∃ l, ofKey (family.name ++ "_location") = .ok l ∧ l.family? = some family := by
  cases family with
  | ipv4 => exact ⟨⟨.ipv4Asn, by decide, rfl⟩, ⟨.ipv4Location, by decide, rfl⟩⟩
  | ipv6 => exact ⟨⟨.ipv6Asn, by decide, rfl⟩, ⟨.ipv6Location, by decide, rfl⟩⟩

section

variable {h : Host} {families : List Family} {language : Language} {family : Family}

theorem IpInfo.exists_locationLine (i : IpInfo) (hfamily : family ∈ families) :
    ∃ text, i.locationLine family.name language = .ok text ∧
      IsBlockOver families language text := by
  obtain ⟨-, ⟨location, hlocation, hlocationFamily⟩⟩ := Label.ofKey_family family
  rw [locationLine, hlocation]
  split
  · exact ⟨_, rfl, .line hlocationFamily hfamily _⟩
  · exact ⟨"", rfl, .empty⟩

theorem IpInfo.exists_lines (i : IpInfo) (hfamily : family ∈ families) :
    ∃ text, i.lines family.name language = .ok text ∧ IsBlockOver families language text := by
  obtain ⟨⟨asn, hasn, hasnFamily⟩, -⟩ := Label.ofKey_family family
  have hnetwork : ∃ text, i.networkLine family.name language = .ok text ∧
      IsBlockOver families language text := by
    rw [networkLine, hasn]
    split
    · exact ⟨"", rfl, .empty⟩
    · exact ⟨_, rfl, .line hasnFamily hfamily _⟩
  obtain ⟨network, hnetwork, hnetworkBlock⟩ := hnetwork
  obtain ⟨place, hplace, hplaceBlock⟩ := exists_locationLine i hfamily
  refine ⟨network ++ place, ?_, hnetworkBlock.append hplaceBlock⟩
  rw [lines, hnetwork, hplace]
  rfl

/-- The lines of a family are there only if something is known of it. -/
theorem endsWith_familyLines {identity : Option IpInfo}
    (hfamily : identity.isSome → family ∈ families) :
    (familyLines identity family language).EndsWith h (IsBlockOver families language)
      fun _ => True := by
  cases identity with
  | none => exact endsWith_pure .empty
  | some i =>
    obtain ⟨text, htext, hblock⟩ : ∃ text, i.lines family.name language = .ok text ∧
        IsBlockOver families language text := i.exists_lines (hfamily rfl)
    rw [familyLines, htext]
    exact endsWith_pure hblock

theorem endsWith_prefixLine (identity : IpInfo) (settings : Settings)
    (sources : String → List PrefixSource) (hfamily : .ipv6 ∈ families) :
    (prefixLine identity language settings sources).EndsWith h (IsBlockOver families language)
      fun _ => True := by
  have hmask (n : Int) : IsBlockOver families language (Ipv6.maskLine n language) :=
    .line (l := .ipv6Mask) rfl hfamily _
  have hfind (address : String) : (Ipv6.findMaskLine address language sources).EndsWith h
      (IsBlockOver families language) fun _ => True := by
    rw [Ipv6.findMaskLine]
    split
    · exact endsWith_pure .empty
    · refine (endsWith_anyhow _).bind fun name _ => ?_
      dsimp only
      split
      · exact endsWith_pure (hmask _)
      · refine (endsWith_anyhow _).bind fun _ _ => ?_
        refine (endsWith_anyhow _).bind fun n _ => ?_
        exact endsWith_pure (hmask n)
  have hline (address : String) := (hfind address).orElseOn (endsWith_pure .empty) Fault.isSystem
  rw [prefixLine]
  split
  · exact (endsWith_anyhow _).bind fun address _ => hline address
  · exact (endsWith_anyhow _).bind fun address _ => hline address

end

/-- Answers are about the families that were asked about. -/
theorem endsWith_askSources {h : Host} (families : List Family) (settings : Settings)
    (sources : List GeoSource) :
    (askSources families settings sources).EndsWith h
      (fun answers => ∀ a ∈ answers, a.1 ∈ families) fun _ => True := by
  refine endsWith_all fun step hstep => ?_
  obtain ⟨family, hfamily, hmem⟩ := List.mem_flatMap.1 hstep
  obtain ⟨s, -, rfl⟩ := List.mem_map.1 hmem
  exact (endsWith_anyhow _).bind fun _ _ => endsWith_pure hfamily

/-- Where no answer is about a family, nothing is known of it. -/
theorem identityOf_eq_none {families : List Family} {family : Family} (hfamily : family ∉ families)
    {answers : List (Family × String × Option IpInfo)} (hanswers : ∀ a ∈ answers, a.1 ∈ families)
    (sources : List GeoSource) : identityOf family answers sources = none := by
  have hnone : answersAbout family answers = [] := by
    rw [answersAbout, List.map_eq_nil_iff, List.filter_eq_nil_iff]
    intro answer hanswer hsame
    exact hfamily (of_decide_eq_true hsame ▸ hanswers answer hanswer)
  rw [identityOf, hnone, IpInfo.mergeByPriority_nil]

/-- Nothing is found about a family that is not asked about. -/
theorem endsWith_lookUpIdentities {h : Host} (check : CheckType) (settings : Settings)
    (sources : List GeoSource) (asnSources : List AsnSource) :
    (lookUpIdentities check settings sources asnSources).EndsWith h
      (fun found => (found.ipv4.isSome → .ipv4 ∈ check.families) ∧
        (found.ipv6.isSome → .ipv6 ∈ check.families))
      fun _ => True := by
  have hanswers := endsWith_askSources (h := h) check.families settings sources
  refine (endsWith_anyhow _).bind fun _ _ => hanswers.bind fun answers hfamilies => ?_
  have hcompleted (family : Family) :
      (completed family (identityOf family answers sources) settings asnSources).EndsWith h
        (fun identity => identity.isSome → family ∈ check.families) fun _ => True := by
    by_cases hfamily : family ∈ check.families
    · exact ⟨fun _ _ _ _ => hfamily, fun _ _ _ => trivial⟩
    · rw [identityOf_eq_none hfamily hfamilies]
      exact endsWith_pure fun hsome => nomatch hsome
  refine (hcompleted .ipv4).bind fun v4 hv4 => ?_
  exact (hcompleted .ipv6).bind fun v6 hv6 => endsWith_pure ⟨hv4, hv6⟩

/-- The network part of a check has lines about its families only. -/
theorem endsWith_networkReport {h : Host} (check : CheckType) (language : Language)
    (settings : Settings) (sources : Option (String → List PrefixSource)) :
    (networkReport check language settings sources).EndsWith h
      (IsBlockOver check.families language) fun _ => True := by
  refine (endsWith_lookUpIdentities check settings _ _).bind fun found hfound => ?_
  refine (endsWith_familyLines hfound.1).bind fun v4 hv4 => ?_
  refine (endsWith_familyLines hfound.2).bind fun v6 hv6 => ?_
  split
  · rename_i i _ hi
    have hfamily : .ipv6 ∈ check.families := hfound.2 (by rw [hi]; rfl)
    refine (endsWith_prefixLine i settings _ hfamily).bind fun mask hmask => ?_
    exact endsWith_pure ((hv4.append hv6).append hmask)
  · exact endsWith_pure (hv4.append hv6)

/-! ## The report -/

/-- What follows the system part has lines only about the families that were reached. -/
theorem endsWith_reachedReport (p : Platform) (settings : Settings) (h : Host) :
    (reachedReport p settings (h.stack settings)).EndsWith h
      (IsBlockOver (h.reached settings) settings.language) fun _ => True := by
  unfold reachedReport
  split
  · rename_i check hcheck
    rw [← Host.families_eq_reached hcheck]
    exact endsWith_networkReport check _ _ _
  · exact endsWith_pure .empty

/-- A report that is given is a pass over the lines of the facts that were collected and those of
the network part, which are about families that were reached. -/
theorem exists_lines_of_buildReport {settings : Settings} {h : Host} {j : Journal} {text : String}
    (hreport : ((buildReport settings).runFrom h j).1 = .ok text) :
    ∃ p info block, (Platform.select.runFrom h j).1 = .ok p ∧
      ((reachedReport p settings (h.stack settings)).runFrom h (h.probed settings j)).1 =
        .ok (linesText block settings.language) ∧
      ((p.collectAll settings (h.stack settings ≠ .offline)).runFrom h
        ((reachedReport p settings (h.stack settings)).runFrom h (h.probed settings j)).2).1 =
          .ok info ∧
      (∀ l ∈ block, ∃ family ∈ h.reached settings, l.1.family? = some family) ∧
      text =
        mergeLineEnds (linesText (info.lines settings.language ++ block) settings.language) := by
  obtain ⟨p, network, info, hp, hnetwork, hinfo, rfl⟩ := exists_parts_of_buildReport hreport
  obtain ⟨block, rfl, hblock⟩ :=
    (endsWith_reachedReport p settings h).value_of_ok (h.probed settings j) network hnetwork
  refine ⟨p, info, block, hp, hnetwork, hinfo, hblock, ?_⟩
  rw [SystemInfo.render_eq, ← linesText_append]

end HostReport
