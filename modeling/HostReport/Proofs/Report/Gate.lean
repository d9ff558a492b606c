import HostReport.Proofs.Collector.Ownership
import HostReport.Proofs.Report.Lines
import HostReport.Proofs.Report.Requests

/-!
# Nothing is asked over a family that is not reached

Probing comes first, and what it finds decides over which families the network part asks and whether
the kind of translation is looked for.  Collectors make no request.  So every request of a run is
over a family that was reached, the lines of the network part are about such families, and without
any a run leaves no more in the journal than its probes and what looking at the host leaves.
-/

namespace HostReport

open HostM

namespace Platform

variable {h : Host} {j : Journal} {isOnline : Bool}

/-! ## What collectors leave in the journal -/

/-- What relates the journals before and after each collector relates those before and after a
run. -/
theorem rel_runFrom_collectAll {R : Journal → Journal → Prop} (hrefl : ∀ j, R j j)
    (htrans : ∀ j j' j'', R j j' → R j' j'' → R j j'') {p : Platform} {settings : Settings}
    (hcollectors : ∀ a ∈ Aspect.collected isOnline, ∀ j,
      R j ((p.collectorOf settings a).runFrom h {} j).2) :
    R j ((p.collectAll settings isOnline).runFrom h j).2 := by
  rw [runFrom_collectAll]
  dsimp only
  split
  · exact hrefl j
  · refine rel_runFrom_all h j hrefl htrans fun step hstep j' => ?_
    obtain ⟨a, ha, rfl⟩ := List.mem_map.1 hstep
    have hcollector := hcollectors a ha j'
    rcases runFrom_part_cases (p.collectorOf settings a) h j' with ⟨-, hrun⟩ | ⟨f, -, -, hrun⟩
    · rwa [hrun]
    · rwa [hrun]

theorem runFrom_collectNat_snd (settings : Settings) (i : SystemInfo) :
    ((collectNat settings).runFrom h i j).2 =
      ((NatType.detect settings.stunTimeout settings.stunServers).runFrom h j).2 := by
  rcases Collector.runFrom_bind_cases h i j
    (liftM (NatType.detect settings.stunTimeout settings.stunServers)) _
    with ⟨f, -, hrun⟩ | ⟨kind, -, hrun⟩
  · rw [collectNat, hrun]
    rfl
  · rw [collectNat, hrun]
    rfl

/-- Collecting makes no request. -/
theorem requestsOver_collectAll (p : Platform) (settings : Settings) :
    RequestsOver h [] (p.collectAll settings isOnline) := by
  intro j
  refine rel_runFrom_collectAll (fun _ => .of_eq rfl) (fun _ _ _ => .trans) fun a _ j' => ?_
  by_cases ha : a = .nat
  · have hdetect : Converses h (NatType.detect settings.stunTimeout settings.stunServers) :=
      NatType.converses_ofServers settings.stunTimeout [] settings.stunServers
    rw [ha, collectorOf, runFrom_collectNat_snd]
    exact hdetect.requestsOver j'
  · exact .of_outside_eq ((writesOnly_collectorOf p settings ha).outside {} j')

/-- Offline, collecting only looks at the host. -/
theorem outside_collectAll_offline (p : Platform) (settings : Settings) :
    ((p.collectAll settings false).runFrom h j).2.outside = j.outside := by
  refine rel_runFrom_collectAll (R := fun j j' => j'.outside = j.outside) (fun _ => rfl)
    (fun _ _ _ hfirst hrest => hrest.trans hfirst) fun a ha j' => ?_
  exact (writesOnly_collectorOf p settings (Aspect.ne_nat_of_mem_collected ha)).outside {} j'

/-- Offline, the kind of translation stays unknown. -/
theorem natType_of_collectAll_offline {p : Platform} {settings : Settings} {info : SystemInfo}
    (hok : ((p.collectAll settings false).runFrom h j).1 = .ok info) : info.natType = "" := by
  have hpart : ∀ a ∈ Aspect.collected false,
      (p.collectorOf settings a).part.EndsWith h (fun part => part.natType = "") fun _ => True := by
    refine fun a ha => ⟨fun j part hgiven => ?_, fun _ _ _ => trivial⟩
    have ha' := Aspect.ne_nat_of_mem_collected ha
    have howned := (writesOnly_collectorOf (h := h) p settings ha').owned {} j
    rcases runFrom_part_cases (p.collectorOf settings a) h j with ⟨-, hrun⟩ | ⟨f, -, -, hrun⟩
    · rw [hrun] at hgiven
      obtain rfl := Except.ok.inj hgiven
      exact SystemInfo.get_eq_of_without_eq howned (f := .natType) (Ne.symm ha')
    · rw [hrun] at hgiven
      exact nomatch hgiven
  rw [runFrom_collectAll] at hok
  dsimp only at hok
  split at hok
  · exact nomatch hok
  · obtain ⟨parts, hparts, rfl⟩ := map_eq_ok_iff.1 hok
    have hempty : ∀ part ∈ parts, part.natType = "" := by
      refine (endsWith_all fun step hstep => ?_).value_of_ok j parts hparts
      obtain ⟨a, ha, rfl⟩ := List.mem_map.1 hstep
      exact hpart a ha
    refine (SystemInfo.get_foldl_fill .natType {} parts).trans ?_
    refine SystemInfo.foldl_chooseText_eq (.inl rfl) (fun t ht => ?_) (.inl rfl)
    obtain ⟨part, hmem, rfl⟩ := List.mem_map.1 ht
    exact .inl (hempty part hmem)

end Platform

/-! ## The report -/

section

variable {h : Host}

theorem requestsOver_reachedReport (p : Platform) (settings : Settings) :
    RequestsOver h (h.reached settings) (reachedReport p settings (h.stack settings)) := by
  unfold reachedReport
  split
  · rename_i check hcheck
    rw [← Host.families_eq_reached hcheck]
    exact requestsOver_networkReport check _ settings p.requestsOver_lengthSources
  · exact requestsOver_pure _

/-- Every request of a run is over a family that is reached. -/
theorem requestsOver_buildReport (settings : Settings) :
    RequestsOver h (h.reached settings) (buildReport settings) := by
  intro j
  obtain ⟨p, -, hrun⟩ := exists_runFrom_buildReport settings h
  have hprobed : Journal.RequestsOver (h.reached settings) j (h.probed settings j) := by
    refine .of_eq ?_
    rw [Host.probed]
    split <;> rfl
  have hparts : RequestsOver h (h.reached settings) (do
      let block ← reachedReport p settings (h.stack settings)
      let info ← p.collectAll settings (h.stack settings ≠ .offline)
      return mergeLineEnds (info.render settings.language ++ block)) := by
    refine (requestsOver_reachedReport p settings).bind fun block _ => ?_
    refine RequestsOver.bind ?_ fun info _ => requestsOver_pure _
    exact (p.requestsOver_collectAll settings).mono (List.nil_subset (h.reached settings))
  rw [hrun j]
  cases h.probeFault? settings with
  | some f => exact hprobed
  | none => exact hprobed.trans (hparts (h.probed settings j))

/-- Where nothing is reached, a run only probes and looks at the host. -/
theorem outside_buildReport_of_reached_eq_nil {settings : Settings}
    (hnone : h.reached settings = []) (j : Journal) :
    ((buildReport settings).runFrom h j).2.outside = (h.probed settings j).outside := by
  have hoffline := Host.stack_eq_offline_of_reached_eq_nil hnone
  obtain ⟨p, -, hrun⟩ := exists_runFrom_buildReport settings h
  have hblock : (reachedReport p settings .offline).runFrom h (h.probed settings j) =
      (.ok "", h.probed settings j) := rfl
  rw [hrun j, hoffline]
  cases h.probeFault? settings with
  | some f => rfl
  | none =>
    dsimp only
    rw [runFrom_bind_of_ok h _ hblock, ← map_eq_pure_bind, runFrom_map]
    exact p.outside_collectAll_offline settings

end

/-- Probing gates the network part of a run.  Every request that a run makes, whether it gives a
report or fails, is over a family of which a probe target was reached; where a socket refuses the
time limit of a try, none was.  In a report that is given, the lines that the network part adds to
those of the collected facts are each about such a family, and those of the facts are about none.
Where nothing is reached, the network part is empty, the kind of translation is unknown, and the run
leaves nothing but its probes and what looking at the host leaves: it makes no request, asks no
source and uses no socket. -/
theorem buildReport_gated (settings : Settings) (h : Host) (j : Journal) :
    (∃ made, ((buildReport settings).runFrom h j).2.requests = j.requests ++ made ∧
      ∀ r ∈ made, ∃ family, h.Reaches settings family ∧ r.family = family.name) ∧
    (∀ text, ((buildReport settings).runFrom h j).1 = .ok text →
      ∃ p info block, (Platform.select.runFrom h j).1 = .ok p ∧
        ((reachedReport p settings (h.stack settings)).runFrom h (h.probed settings j)).1 =
          .ok (linesText block settings.language) ∧
        ((p.collectAll settings (h.stack settings ≠ .offline)).runFrom h
          ((reachedReport p settings (h.stack settings)).runFrom h (h.probed settings j)).2).1 =
            .ok info ∧
        text =
          mergeLineEnds (linesText (info.lines settings.language ++ block) settings.language) ∧
        (∀ l ∈ info.lines settings.language, l.1.family? = none) ∧
        (∀ l ∈ block, ∃ family, l.1.family? = some family ∧ h.Reaches settings family) ∧
        ((∀ family, ¬h.Reaches settings family) → block = [] ∧ info.natType = "")) ∧
    ((∀ family, ¬h.Reaches settings family) →
      ((buildReport settings).runFrom h j).2.outside = (h.probed settings j).outside) := by
  refine ⟨?_, fun text hreport => ?_, fun hnone => ?_⟩
  · obtain ⟨made, hmade, hover⟩ := requestsOver_buildReport settings j
    refine ⟨made, hmade, fun r hr => ?_⟩
    obtain ⟨family, hfamily, hname⟩ := hover r hr
    exact ⟨family, Host.mem_reached_iff.1 hfamily, hname⟩
  · obtain ⟨p, info, block, hp, hnetwork, hinfo, hblock, htext⟩ :=
      exists_lines_of_buildReport hreport
    have hreached : ∀ l ∈ block, ∃ family, l.1.family? = some family ∧
        h.Reaches settings family := by
      intro l hl
      obtain ⟨family, hfamily, hlabel⟩ := hblock l hl
      exact ⟨family, hlabel, Host.mem_reached_iff.1 hfamily⟩
    refine ⟨p, info, block, hp, hnetwork, hinfo, htext,
      fun l hl => SystemInfo.family?_of_mem_lines hl, hreached, fun hnone => ⟨?_, ?_⟩⟩
    · refine List.eq_nil_iff_forall_not_mem.2 fun l hl => ?_
      obtain ⟨family, -, hfamily⟩ := hreached l hl
      exact hnone family hfamily
    · have hoffline := Host.stack_eq_offline_of_reached_eq_nil (Host.reached_eq_nil_iff.2 hnone)
      rw [hoffline] at hinfo
      exact Platform.natType_of_collectAll_offline hinfo
  · exact outside_buildReport_of_reached_eq_nil (Host.reached_eq_nil_iff.2 hnone) j

/-- A host that is reached over one family, by the second target that is tried. -/
def reachingIpv4 : Host where
  reachable := ["8.8.8.8:53"]

/-- On this host the four sources of identities are asked over its family alone; on a host without
any, a report is given that has only the lines of the facts. -/
theorem buildReport_gated_reachingIpv4_offline :
    (∃ made : List HttpRequest, ((buildReport {}).runFrom reachingIpv4 {}).2.requests = made ∧
      made.length = 4 ∧ ∀ r ∈ made, r.family = "ipv4") ∧
    (∀ family, ¬Host.Reaches {} {} family) ∧
    ∃ text info, ((buildReport {}).runFrom {} {}).1 = .ok text ∧
      text = mergeLineEnds (linesText (SystemInfo.lines info .chinese) .chinese) ∧
      info.natType = "" := by
  refine ⟨?_, ?_⟩
  · obtain ⟨⟨made, hmade, hover⟩, -⟩ := buildReport_gated {} reachingIpv4 {}
    have hlength : ((buildReport {}).runFrom reachingIpv4 {}).2.requests.length = 4 := by
      decide +kernel
    have hunreached : ¬reachingIpv4.Reaches {} .ipv6 := by decide
    refine ⟨_, rfl, hlength, fun r hr => ?_⟩
    rw [hmade] at hr
    obtain ⟨family, hfamily, hname⟩ := hover r hr
    cases family with
    | ipv4 => exact hname
    | ipv6 => exact absurd hfamily hunreached
  · have hnone : ∀ family, ¬Host.Reaches {} {} family := by
      intro family
      cases family <;> decide
    have hgiven : ((buildReport {}).runFrom {} {}).1.toOption.isSome = true := by decide +kernel
    obtain ⟨text, hreport⟩ := exists_ok_of_isSome hgiven
    obtain ⟨-, htexts, -⟩ := buildReport_gated {} {} {}
    obtain ⟨p, info, block, -, -, -, htext, -, -, hempty⟩ := htexts text hreport
    obtain ⟨rfl, hnat⟩ := hempty hnone
    rw [List.append_nil] at htext
    exact ⟨hnone, text, info, hreport, htext, hnat⟩

end HostReport
