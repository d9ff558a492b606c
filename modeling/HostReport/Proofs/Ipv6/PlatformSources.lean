import HostReport.Collector.PrefixLength
import HostReport.Proofs.Host.Figures
import HostReport.Proofs.Host.Look
import HostReport.Proofs.Ipv6.Mask
import HostReport.Proofs.Stun.Waiting

/-!
# The sources of prefix lengths of each platform

Files and the output of commands may hold anything.  What is read from them is a length, none, or
the fault that a number cannot be read; and where a raw socket may not be used, the operating system
refuses it.  The next source is asked after both.  The one reading that fails otherwise is that of
addresses as JSON, by which Windows is asked last: a text that is nested too deeply ends the search
there with a fault, although no source has told a length.

No source makes a request, so one predicate on steps, `HostM.Inspects`, carries both facts through
what the sources are made of.
-/

namespace HostReport

open HostM

variable {α β : Type} {h : Host} {fault : Fault → Prop}

/-! ## Readings -/

namespace Ipv6

section

variable (hmalformed : fault .malformed)

include hmalformed

theorem failsOnly_readLength (length : List Char) : FailsOnly (readLength length) fault := by
  rw [readLength]
  split
  · exact failsOnly_ok _
  · exact failsOnly_error hmalformed

theorem failsOnly_firstPublic (pairs : List (List Char × List Char)) :
    FailsOnly (firstPublic pairs) fault := by
  induction pairs with
  | nil => exact failsOnly_ok none
  | cons pair pairs ih =>
    rw [firstPublic]
    split
    · refine (failsOnly_readLength hmalformed _).bind fun n _ => ?_
      split
      · exact failsOnly_ok (some n)
      · exact ih
    · exact ih

theorem failsOnly_publicLengths (pairs : List (List Char × List Char)) :
    FailsOnly (publicLengths pairs) fault := by
  induction pairs with
  | nil => exact failsOnly_ok []
  | cons pair pairs ih =>
    rw [publicLengths]
    split
    · refine (failsOnly_readLength hmalformed _).bind fun n _ => ih.bind fun rest _ => ?_
      exact failsOnly_ok _
    · exact ih

theorem failsOnly_firstValid (lengths : List (List Char)) :
    FailsOnly (firstValid lengths) fault := by
  induction lengths with
  | nil => exact failsOnly_ok none
  | cons length lengths ih =>
    rw [firstValid]
    refine (failsOnly_readLength hmalformed _).bind fun n _ => ?_
    split
    · exact failsOnly_ok (some n)
    · exact ih

theorem failsOnly_ofAddressListing (listing : String) :
    FailsOnly (ofAddressListing listing) fault :=
  (failsOnly_publicLengths hmalformed _).bind fun _ _ => failsOnly_ok _

theorem failsOnly_ofSections (interface current : List Char) (lines : List (List Char)) :
    FailsOnly (ofSections interface current lines) fault := by
  induction lines generalizing current with
  | nil => exact failsOnly_ok none
  | cons line lines ih =>
    rw [ofSections]
    split
    · exact ih _
    split
    · exact ih _
    split
    · refine (failsOnly_firstPublic hmalformed _).bind fun found _ => ?_
      cases found with
      | none => exact ih _
      | some n => exact failsOnly_ok (some n)
    · exact ih _

/-- Addresses as JSON fail otherwise only where they are nested too deeply. -/
theorem failsOnly_ofJsonListing {maxNesting : Nat} {listing : String}
    (hdeep : Json.parse listing maxNesting = .error .tooDeep → fault .tooDeep) :
    FailsOnly (ofJsonListing maxNesting listing) fault := by
  rw [ofJsonListing]
  cases hparse : Json.parse listing maxNesting with
  | error f =>
    cases f with
    | malformed => exact failsOnly_ok none
    | tooDeep => exact failsOnly_error (hdeep hparse)
  | ok value =>
    cases value with
    | _ => exact failsOnly_firstPublic hmalformed _

end

theorem ofJsonListing_of_tooDeep {maxNesting : Nat} {listing : String}
    (hdeep : Json.parse listing maxNesting = .error .tooDeep) :
    ofJsonListing maxNesting listing = .error .tooDeep := by
  rw [ofJsonListing, hdeep]

end Ipv6

/-! ## Steps that make no request -/

namespace HostM

/-- Whether a step fails on a host by these faults alone. -/
def FailsAt (h : Host) (fault : Fault → Prop) (step : HostM α) : Prop :=
  ∀ j, FailsOnly (step.runFrom h j).1 fault

/-- Whether a step makes no request on a host, and fails by these faults alone. -/
structure Inspects (h : Host) (fault : Fault → Prop) (step : HostM α) : Prop where
  fails : FailsAt h fault step
  requests : ∀ j, (step.runFrom h j).2.requests = j.requests

theorem inspects_pure (x : α) : Inspects h fault (pure x) where
  fails _ := failsOnly_ok x
  requests _ := rfl

theorem inspects_throw {f : Fault} (hf : fault f) : Inspects h fault (throw f : HostM α) where
  fails _ := failsOnly_error hf
  requests _ := rfl

theorem inspects_ofExcept {r : Except Fault α} (hr : FailsOnly r fault) :
    Inspects h fault (ofExcept r) := by
  cases r with
  | error f => exact inspects_throw (hr f rfl)
  | ok x => exact inspects_pure x

theorem Inspects.bind_of_given {step : HostM α} {next : α → HostM β}
    (hstep : Inspects h fault step) (hnext : ∀ x, step.MayGive h x → Inspects h fault (next x)) :
    Inspects h fault (step >>= next) where
  fails j := by
    rcases runFrom_bind_cases h j step next with ⟨f, hfirst, hrun⟩ | ⟨x, hfirst, hrun⟩
    · rw [hrun]
      exact failsOnly_error (hstep.fails j f hfirst)
    · rw [hrun]
      exact (hnext x ⟨j, hfirst⟩).fails _
  requests j := by
    rcases runFrom_bind_cases h j step next with ⟨f, -, hrun⟩ | ⟨x, hfirst, hrun⟩
    · rw [hrun]
      exact hstep.requests j
    · rw [hrun]
      exact ((hnext x ⟨j, hfirst⟩).requests _).trans (hstep.requests j)

theorem Inspects.bind {step : HostM α} {next : α → HostM β} (hstep : Inspects h fault step)
    (hnext : ∀ x, Inspects h fault (next x)) : Inspects h fault (step >>= next) :=
  hstep.bind_of_given fun x _ => hnext x

theorem inspects_read_bind {next : Host → HostM β} (hnext : Inspects h fault (next h)) :
    Inspects h fault (read >>= next) where
  fails := hnext.fails
  requests := hnext.requests

theorem LooksAt.inspects {step : HostM α} (hlooks : LooksAt h fault step) :
    Inspects h fault step where
  fails := hlooks.fails
  requests j := by
    change (step.runFrom h j).2.outside.requests = j.outside.requests
    rw [hlooks.outside]

end HostM

theorem Host.inspects_outputUntilStopped (words : List String) :
    Inspects h fault (outputUntilStopped words) := by
  have hcommand : Inspects h fault (runCommand words) := by
    constructor
    · intro j
      rw [runFrom_runCommand_next]
      exact failsOnly_ok _
    · intro j
      rw [runFrom_runCommand_next]
  refine hcommand.bind fun result => ?_
  cases result with
  | missing => exact inspects_pure _
  | exited status output errors => exact inspects_pure _
  | stopped output => exact inspects_pure _

namespace Ipv6

/-- Soliciting fails where the operating system refuses the socket, what is left of the timeout or
the interfaces. -/
theorem inspects_solicit (interface : String) (timeout : Binary64) (hunknown : fault .unavailable)
    (hsocket : FailsOnly h.advertisements fault) (hwaits : h.WaitsBut timeout fault)
    (htable : FailsOnly h.interfaces fault) : Inspects h fault (solicit interface timeout) := by
  have hnote (a : WireAction) : Inspects h fault (Socket.note a) :=
    ⟨fun _ => failsOnly_ok _, fun _ => rfl⟩
  have hawait (queue : List Arrival) : Inspects h fault
      ((Socket.await usefulLengths? advertisementLimit timeout).run' queue) :=
    ⟨fun _ => failsOnly_ok _, fun _ => rfl⟩
  refine inspects_read_bind ?_
  dsimp only
  split
  · exact inspects_throw hunknown
  refine (inspects_ofExcept hsocket).bind fun queue => ?_
  refine (hnote _).bind fun _ => (hnote _).bind fun _ => ?_
  refine (inspects_ofExcept htable).bind fun interfaces => (hnote _).bind fun _ => ?_
  refine (hawait queue).bind_of_given fun awaited hawaited => ?_
  cases awaited with
  | received lengths => exact inspects_pure lengths
  | expired => exact inspects_pure []
  | failed => exact inspects_throw hunknown
  | refused f =>
    obtain ⟨j, hgiven⟩ := hawaited
    exact inspects_throw (hwaits f (Host.refusesLeftOf_of_refused (Except.ok.inj hgiven)))

end Ipv6

/-! ## Sources -/

namespace Platform

open Ipv6

theorem runFrom_lengthOfOutput (words : List String) (find : String → Except Fault (Option Int))
    (j : Journal) :
    (lengthOfOutput words find).runFrom h j =
      (find (h.nextOutput j words),
        { j with commandsTaken := j.commandsTaken ++ [" ".intercalate words] }) := by
  rw [lengthOfOutput, runFrom_bind_of_ok h j (Host.runFrom_outputOf_next words false j),
    runFrom_ofExcept]

theorem inspects_lengthOfOutput (words : List String) {find : String → Except Fault (Option Int)}
    (hfind : ∀ output, FailsOnly (find output) fault) :
    Inspects h fault (lengthOfOutput words find) :=
  (Host.looksAt_outputOf _ _).inspects.bind fun output => inspects_ofExcept (hfind output)

theorem inspects_lengthOfFiles {find : String → Except Fault (Option Int)}
    (hfind : ∀ file, FailsOnly (find file) fault) (paths : List String) :
    Inspects h fault (lengthOfFiles find paths) := by
  induction paths with
  | nil => exact inspects_pure none
  | cons path paths ih =>
    refine (Host.looksAt_readText path).inspects.bind fun file => ?_
    refine (inspects_ofExcept (hfind file)).bind fun found => ?_
    cases found with
    | none => exact ih
    | some n => exact inspects_pure (some n)

/-- A length that a tool tells, if there is the tool. -/
theorem inspects_askTool (name : String) {ask : String → HostM (Option Int)}
    (hask : ∀ tool, Inspects h fault (ask tool)) :
    Inspects h fault (do
      match ← Host.findTool name with
      | some tool => ask tool
      | none => return none) := by
  refine (Host.looksAt_findTool name).inspects.bind fun tool => ?_
  cases tool with
  | none => exact inspects_pure none
  | some tool => exact hask tool

section

variable (hmalformed : fault .malformed) (interface : String)

include hmalformed

theorem inspects_dumpedLength : Inspects h fault (dumpedLength interface) :=
  inspects_askTool "radvdump" fun _ => (Host.inspects_outputUntilStopped _).bind fun _ =>
    inspects_ofExcept (failsOnly_firstPublic hmalformed _)

theorem inspects_listedLength : Inspects h fault (listedLength interface) :=
  inspects_askTool "ip" fun _ =>
    inspects_lengthOfOutput _ fun output => failsOnly_ofAddressListing hmalformed output

theorem inspects_serviceLength : Inspects h fault (serviceLength interface) := by
  refine (Host.looksAt_outputOf _ _).inspects.bind fun listing => ?_
  dsimp only
  split
  · exact inspects_pure none
  · exact inspects_lengthOfOutput _ fun output => failsOnly_firstPublic hmalformed _

theorem inspects_interfaceListing : Inspects h fault (interfaceListingSource interface).length :=
  inspects_lengthOfOutput _ fun _ => failsOnly_firstPublic hmalformed _

theorem inspects_settings (find : String → List (List Char)) (paths : List String) :
    Inspects h fault (lengthOfFiles (fun file => firstValid (find file)) paths) :=
  inspects_lengthOfFiles (fun file => failsOnly_firstValid hmalformed (find file)) paths

/-- A source of a platform makes no request, and fails because a number cannot be read, because the
operating system refuses something, or on Windows because a text is nested too deeply. -/
theorem inspects_lengthSources (hunknown : fault .unavailable)
    (hsocket : FailsOnly h.advertisements fault) (hwaits : h.WaitsBut solicitationTimeout fault)
    (htable : FailsOnly h.interfaces fault)
    {p : Platform} (hdeep : p = windows → fault .tooDeep) :
    ∀ s ∈ p.lengthSources interface, Inspects h fault s.length := by
  cases p with
  | generic => exact fun s hs => absurd hs List.not_mem_nil
  | linux =>
    have hsolicited : Inspects h fault (solicitedLength interface) :=
      (inspects_solicit interface _ hunknown hsocket hwaits htable).bind fun _ => inspects_pure _
    simp only [lengthSources, List.forall_mem_cons]
    exact ⟨inspects_dumpedLength hmalformed _, hsolicited, inspects_listedLength hmalformed _,
      inspects_settings hmalformed _ _, nofun⟩
  | darwin =>
    simp only [lengthSources, List.forall_mem_cons]
    exact ⟨inspects_interfaceListing hmalformed _, inspects_serviceLength hmalformed _, nofun⟩
  | bsd sysctl =>
    simp only [lengthSources, List.forall_mem_cons]
    exact ⟨inspects_interfaceListing hmalformed _, inspects_settings hmalformed _ _, nofun⟩
  | windows =>
    have hlisting (output : String) : FailsOnly (ofSectionListing output interface) fault :=
      failsOnly_ofSections hmalformed _ _ _
    have haddresses (output : String) : FailsOnly (ofJsonListing h.maxNesting output) fault :=
      failsOnly_ofJsonListing hmalformed fun _ => hdeep rfl
    have hqueried : Inspects h fault (queriedLength interface) :=
      inspects_read_bind (inspects_lengthOfOutput _ haddresses)
    simp only [lengthSources, List.forall_mem_cons]
    exact ⟨inspects_lengthOfOutput _ hlisting, hqueried, nofun⟩

end

/-! ## Windows -/

/-- The command that lists the addresses of all interfaces. -/
def listingWords : List String := ["netsh", "interface", "ipv6", "show", "addresses"]

/-- The command that tells the addresses of an interface as JSON. -/
def addressWords (interface : String) : List String :=
  ["powershell", "-NoProfile", "-Command", addressQuery interface]

theorem addressWords_ne_listingWords (interface : String) :
    " ".intercalate (addressWords interface) ≠ " ".intercalate listingWords := by
  intro heq
  have hfirst := congrArg (·.toList.head?) heq
  simp [addressWords, listingWords] at hfirst

/-- Whether the listing tells no length of use for an interface, and its addresses as JSON are
nested too deeply. -/
structure NestsTooDeeply (h : Host) (j : Journal) (interface : String) : Prop where
  untold : lengthOfUse (ofSectionListing (h.nextOutput j listingWords) interface) = none
  tooDeep : Json.parse (h.nextOutput j (addressWords interface)) h.maxNesting = .error .tooDeep

variable {j : Journal}

theorem runFrom_asked_lengthOfOutput (name : String) (words : List String)
    (find : String → Except Fault (Option Int)) :
    (PrefixSource.asked ⟨name, lengthOfOutput words find⟩).runFrom h j =
      (find (h.nextOutput j words),
        { j.consulting (.prefixLength name) with
          commandsTaken := j.commandsTaken ++ [" ".intercalate words] }) := by
  rw [PrefixSource.runFrom_asked, runFrom_lengthOfOutput]
  rfl

theorem runFrom_asked_queriedLength (interface : String) :
    (PrefixSource.asked ⟨"powershell", queriedLength interface⟩).runFrom h j =
      (ofJsonListing h.maxNesting (h.nextOutput j (addressWords interface)),
        { j.consulting (.prefixLength "powershell") with
          commandsTaken := j.commandsTaken ++ [" ".intercalate (addressWords interface)] }) := by
  rw [PrefixSource.runFrom_asked, queriedLength,
    runFrom_bind_of_ok h _ (runFrom_read h _), ← addressWords, runFrom_lengthOfOutput]
  rfl

/-- The last source of Windows ends the search with a length, or with a fault if the addresses are
nested too deeply. -/
theorem runFrom_firstLength_addresses (interface : String) :
    let search := firstLength [⟨"powershell", queriedLength interface⟩]
    let parsed := Json.parse (h.nextOutput j (addressWords interface)) h.maxNesting
    (parsed = .error .tooDeep → (search.runFrom h j).1 = .error .tooDeep) ∧
    (parsed ≠ .error .tooDeep → ∃ n, (search.runFrom h j).1 = .ok n) := by
  have hasked := congrArg Prod.fst (runFrom_asked_queriedLength (h := h) (j := j) interface)
  constructor
  · intro htooDeep
    have herror := hasked.trans (ofJsonListing_of_tooDeep htooDeep)
    rw [firstLength, runFrom_bind, runFrom_askPrefixSource_of_error herror (by decide)]
  · intro hread
    have htolerated : FailsOnly
        (ofJsonListing h.maxNesting (h.nextOutput j (addressWords interface)))
        (isOfPrefixSource · = true) :=
      failsOnly_ofJsonListing (by decide) fun hdeep => absurd hdeep hread
    dsimp only at hasked ⊢
    rw [← hasked] at htolerated
    rw [runFrom_firstLength_cons [] htolerated]
    split
    · exact ⟨_, rfl⟩
    · exact ⟨wholeAddress, rfl⟩

/-- On Windows a length is found, unless the search comes to addresses that are nested too
deeply. -/
theorem runFrom_firstLength_windows (interface : String) :
    let search := firstLength (windows.lengthSources interface)
    (NestsTooDeeply h j interface → (search.runFrom h j).1 = .error .tooDeep) ∧
    (¬NestsTooDeeply h j interface → ∃ n, (search.runFrom h j).1 = .ok n) := by
  have hlisting := runFrom_asked_lengthOfOutput (h := h) (j := j) "netsh" listingWords
    (ofSectionListing · interface)
  have htolerated : FailsOnly (ofSectionListing (h.nextOutput j listingWords) interface)
      (isOfPrefixSource · = true) := failsOnly_ofSections (by decide) _ _ _
  generalize hj' : ({ j.consulting (.prefixLength "netsh") with
    commandsTaken := j.commandsTaken ++ [" ".intercalate listingWords] } : Journal) = j' at hlisting
  -- the listing is another command, so the addresses come next from where the search begins
  have haddresses : h.nextOutput j' (addressWords interface) =
      h.nextOutput j (addressWords interface) := by
    have hother : " ".intercalate (addressWords interface) ∉ [" ".intercalate listingWords] := by
      rw [List.mem_singleton]
      exact addressWords_ne_listingWords interface
    rw [← hj']
    exact Host.nextOutput_of_not_mem false rfl hother
  obtain ⟨hdeep, hread⟩ := runFrom_firstLength_addresses (h := h) (j := j') interface
  rw [haddresses] at hdeep hread
  have hsearch := runFrom_firstLength_cons (h := h) (j := j)
    (s := ⟨"netsh", lengthOfOutput listingWords (ofSectionListing · interface)⟩)
    [⟨"powershell", queriedLength interface⟩]
    (hlisting ▸ htolerated)
  rw [hlisting] at hsearch
  dsimp only
  rw [lengthSources, ← listingWords, hsearch]
  cases huntold : lengthOfUse (ofSectionListing (h.nextOutput j listingWords) interface) with
  | some n =>
    refine ⟨fun hnests => ?_, fun _ => ⟨n, rfl⟩⟩
    exact absurd (huntold.symm.trans hnests.untold) (Option.some_ne_none n)
  | none =>
    constructor
    · exact fun hnests => hdeep hnests.tooDeep
    · exact fun hnot => hread fun htooDeep => hnot ⟨huntold, htooDeep⟩

end Platform

end HostReport
