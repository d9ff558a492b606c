import HostReport.Proofs.AddressTranslation.Conversation
import HostReport.Proofs.Ipv6.PlatformSources
import HostReport.Proofs.Report.Lines

/-!
# The requests of the network part

Sources of identities and of networks are asked over the family that is looked up, and the services
that tell an address over IPv6, which is asked for only where something is known over IPv6.  What
tells the length of a prefix makes no request at all.  So the network part of a check makes requests
over its families only, however it ends.
-/

namespace HostReport

open HostM

variable {α : Type} {h : Host} {families : List Family}

theorem requestsOver_requireWorkers (count : Int) :
    RequestsOver h families (requireWorkers count) := by
  rw [requireWorkers]
  split
  · exact requestsOver_throw _
  · exact requestsOver_pure _

/-! ## Identities and networks -/

theorem requestsOver_guarded {lookup : HostM (Option IpInfo)}
    (hlookup : RequestsOver h families lookup) : RequestsOver h families (guarded lookup) :=
  hlookup.orElseOn (requestsOver_pure _) _

theorem GeoSource.requestsOver_ask {s : GeoSource} (hs : s ∈ standard) (family : Family)
    (settings : Settings) : RequestsOver h [family] (s.ask family.name settings) := by
  have hofUrl : ∀ name url decode asBrowser extraHeaders, RequestsOver h [family]
      ((ofUrl name url decode asBrowser extraHeaders).lookup family.name settings) := by
    intro name url decode asBrowser extraHeaders
    refine (requestsOver_fetchJson url).bind fun data _ => ?_
    exact (requestsOver_ofExcept _).bind fun _ _ => requestsOver_pure _
  have hlookup : RequestsOver h [family] (s.lookup family.name settings) := by
    simp only [standard, List.mem_cons, List.not_mem_nil, or_false] at hs
    rcases hs with rfl | rfl | rfl | rfl
    · exact hofUrl _ _ _ _ _
    · exact hofUrl _ _ _ _ _
    · exact hofUrl _ _ _ _ _
    · exact hofUrl _ _ _ _ _
  refine (requestsOver_consult _).bind fun _ _ => ?_
  exact (requestsOver_guarded hlookup).bind fun _ _ => requestsOver_pure _

theorem AsnSource.requestsOver_ask {s : AsnSource} (hs : s ∈ standard) (ip : String)
    (family : Family) (settings : Settings) :
    RequestsOver h [family] (s.ask ip family.name settings) := by
  have hlookup : RequestsOver h [family] (s.lookup ip family.name settings) := by
    simp only [standard, List.mem_cons, List.not_mem_nil, or_false] at hs
    rcases hs with rfl | rfl
    · exact (requestsOver_fetchText _).bind fun _ _ => requestsOver_ofExcept _
    · refine (requestsOver_fetchJson _).bind fun _ _ => ?_
      exact (requestsOver_ofExcept _).bind fun _ _ => requestsOver_pure _
  refine (requestsOver_consult _).bind fun _ _ => ?_
  exact (requestsOver_guarded hlookup).bind fun _ _ => requestsOver_pure _

theorem requestsOver_completeNetwork (i : IpInfo) (family : Family) (settings : Settings) :
    RequestsOver h [family] (i.completeNetwork family.name settings) := by
  rw [IpInfo.completeNetwork]
  split
  · exact requestsOver_pure _
  · refine (requestsOver_requireWorkers _).bind fun _ _ => ?_
    refine (requestsOver_all fun step hstep => ?_).bind fun _ _ => requestsOver_pure _
    obtain ⟨s, hs, rfl⟩ := List.mem_map.1 hstep
    exact AsnSource.requestsOver_ask hs i.ip family settings

/-- Looking up a check makes requests over its families. -/
theorem requestsOver_lookUpIdentities (check : CheckType) (settings : Settings) :
    RequestsOver h check.families (lookUpIdentities check settings) := by
  have hask : RequestsOver h check.families
      (askSources check.families settings GeoSource.standard) := by
    refine requestsOver_all fun step hstep => ?_
    obtain ⟨family, hfamily, hmem⟩ := List.mem_flatMap.1 hstep
    obtain ⟨s, hs, rfl⟩ := List.mem_map.1 hmem
    have hover := (GeoSource.requestsOver_ask (h := h) hs family settings).of_mem hfamily
    exact hover.bind fun _ _ => requestsOver_pure _
  refine (requestsOver_requireWorkers _).bind fun _ _ => hask.bind fun answers hanswers => ?_
  obtain ⟨j, hgiven⟩ := hanswers
  have hfamilies := (endsWith_askSources check.families settings _).value_of_ok j answers hgiven
  -- an identity is completed over its family, and there is none of a family not asked about
  have hcompleted (family : Family) : RequestsOver h check.families
      (completed family (identityOf family answers GeoSource.standard) settings
        AsnSource.standard) := by
    by_cases hfamily : family ∈ check.families
    · cases identityOf family answers GeoSource.standard with
      | none => exact requestsOver_pure _
      | some i =>
        have hover := (requestsOver_completeNetwork (h := h) i family settings).of_mem hfamily
        exact hover.bind fun _ _ => requestsOver_pure _
    · rw [identityOf_eq_none hfamily hfamilies]
      exact requestsOver_pure _
  refine (hcompleted .ipv4).bind fun v4 _ => ?_
  exact (hcompleted .ipv6).bind fun v6 _ => requestsOver_pure _

/-! ## Sources of prefix lengths -/

/-- No source of prefix lengths makes a request. -/
theorem Platform.requestsOver_lengthSources (p : Platform) (interface : String) :
    ∀ s ∈ p.lengthSources interface, RequestsOver h [] s.length := by
  intro s hs
  have hinspects : Inspects h (fun _ => True) s.length :=
    inspects_lengthSources trivial interface trivial (fun _ _ => trivial) (fun _ _ => trivial)
      (fun _ _ => trivial) (fun _ => trivial) s hs
  exact requestsOver_of_eq hinspects.requests

/-! ## The network part -/

namespace Ipv6

theorem requestsOver_firstAddress (settings : Settings) (urls : List String) :
    RequestsOver h [.ipv6] (firstAddress settings urls) := by
  induction urls with
  | nil => exact requestsOver_pure _
  | cons url urls ih =>
    have hfetch : RequestsOver h [.ipv6]
        (fetchText url Family.ipv6.name settings false (some addressTimeout) (some 0)) :=
      requestsOver_fetchText url
    refine hfetch.attempt.bind fun r _ => ?_
    split
    · exact ih
    · exact requestsOver_throw _
    · dsimp only
      split
      · exact requestsOver_pure _
      · exact ih

theorem requestsOver_firstLength {sources : List PrefixSource}
    (hsources : ∀ s ∈ sources, RequestsOver h families s.length) :
    RequestsOver h families (firstLength sources) := by
  induction sources with
  | nil => exact requestsOver_pure _
  | cons s sources ih =>
    have hask : RequestsOver h families (askPrefixSource s) := by
      refine (requestsOver_consult _).bind fun _ _ => ?_
      refine RequestsOver.bind ?_ fun _ _ => requestsOver_pure _
      exact (hsources s List.mem_cons_self).orElseOn (requestsOver_pure _) _
    refine hask.bind fun n? _ => ?_
    cases n? with
    | none => exact ih fun s' hs' => hsources s' (List.mem_cons_of_mem s hs')
    | some n => exact requestsOver_pure _

theorem requestsOver_findMaskLine (address : String) (language : Language)
    {sources : String → List PrefixSource}
    (hsources : ∀ name, ∀ s ∈ sources name, RequestsOver h families s.length) :
    RequestsOver h families (findMaskLine address language sources) := by
  rw [findMaskLine]
  split
  · exact requestsOver_pure _
  have hinterface : RequestsOver h families defaultInterface :=
    requestsOver_read.bind fun _ _ => (requestsOver_ofExcept _).bind fun _ _ => requestsOver_pure _
  refine hinterface.bind fun name _ => ?_
  dsimp only
  split
  · exact requestsOver_pure _
  refine (requestsOver_consult _).bind fun _ _ => ?_
  exact (requestsOver_firstLength (hsources name)).bind fun _ _ => requestsOver_pure _

end Ipv6

theorem requestsOver_prefixLine (i : IpInfo) (language : Language) (settings : Settings)
    {sources : String → List PrefixSource}
    (hsources : ∀ name, ∀ s ∈ sources name, RequestsOver h [] s.length) :
    RequestsOver h [.ipv6] (prefixLine i language settings sources) := by
  have hline (address : String) : RequestsOver h [.ipv6]
      (HostM.orElseOn Fault.isSystem (Ipv6.findMaskLine address language sources) (pure "")) :=
    ((Ipv6.requestsOver_findMaskLine address language hsources).mono
      (List.nil_subset _)).orElseOn (requestsOver_pure _) _
  rw [prefixLine]
  split
  · exact (requestsOver_pure _).bind fun address _ => hline address
  · exact (Ipv6.requestsOver_firstAddress settings _).bind fun address _ => hline address

theorem requestsOver_familyLines (identity : Option IpInfo) (family : Family)
    (language : Language) : RequestsOver h families (familyLines identity family language) := by
  cases identity with
  | none => exact requestsOver_pure _
  | some i => exact requestsOver_ofExcept _

/-- The network part of a check makes requests over its families. -/
theorem requestsOver_networkReport (check : CheckType) (language : Language) (settings : Settings)
    {sources : String → List PrefixSource}
    (hsources : ∀ name, ∀ s ∈ sources name, RequestsOver h [] s.length) :
    RequestsOver h check.families (networkReport check language settings (some sources)) := by
  refine (requestsOver_lookUpIdentities check settings).bind fun found hfound => ?_
  obtain ⟨j, hgiven⟩ := hfound
  have hfamilies := (endsWith_lookUpIdentities check settings _ _).value_of_ok j found hgiven
  refine (requestsOver_familyLines _ _ _).bind fun v4 _ => ?_
  refine (requestsOver_familyLines _ _ _).bind fun v6 _ => ?_
  cases hi : found.ipv6 with
  | none => exact requestsOver_pure _
  | some i =>
    have hfamily : .ipv6 ∈ check.families := hfamilies.2 (by rw [hi]; rfl)
    have hover := (requestsOver_prefixLine i language settings hsources).of_mem hfamily
    exact hover.bind fun _ _ => requestsOver_pure _

end HostReport
