import HostReport.Proofs.Ipv6.PlatformSources

/-!
# Finding the prefix length

A host with a public address gets one line.  It is for the first length of use that the sources of
its interface tell, in their order, if they fail by faults that are tolerated; for the whole address
without an interface or without such a source; and the sources after the first that tells one are
not asked.

The sources of the platforms are meant to fail by tolerated faults alone, so that each platform
gives a line.  This holds with one exception, on Windows, where the addresses that are read as JSON
can be nested too deeply.
-/

namespace HostReport

open HostM

/-! ## Texts that are nested too deeply -/

namespace Json

theorem readWord?_bracket (s : List Char) : readWord? ('[' :: s) = none := by
  simp [readWord?, wordValues, List.isPrefixOf?]

theorem readItems_of_error {fuel nesting : Nat} {s : List Char} {f : ReadFault}
    (hitem : readValue fuel nesting s = .error f) :
    readItems (fuel + 1) nesting s = .error f := by
  rw [readItems, hitem]
  rfl

/-- An array cannot be read if the array that it begins with cannot. -/
theorem readValue_brackets_of_error {fuel nesting : Nat} {s : List Char} {f : ReadFault}
    (hinner : readValue fuel nesting ('[' :: s) = .error f) :
    readValue (fuel + 2) (nesting + 1) ('[' :: '[' :: s) = .error f := by
  have hskip : skipSpace ('[' :: s) = '[' :: s := rfl
  rw [readValue, readWord?_bracket]
  simp only [hskip]
  change (readItems (fuel + 1) nesting ('[' :: s) >>= _) = _
  rw [readItems_of_error hinner]
  rfl

/-- More brackets than may enclose each other are too many. -/
theorem readValue_replicate {nesting fuel : Nat} (hfuel : 2 * nesting < fuel) (more : Nat) :
    readValue fuel nesting (List.replicate (nesting + 1 + more) '[') = .error .tooDeep := by
  induction nesting generalizing fuel with
  | zero =>
    obtain ⟨fuel, rfl⟩ := Nat.exists_eq_succ_of_ne_zero (Nat.ne_of_gt hfuel)
    rw [Nat.add_right_comm, List.replicate_succ, readValue, readWord?_bracket]
  | succ nesting ih =>
    obtain ⟨fuel, rfl⟩ : ∃ fuel', fuel = fuel' + 2 := ⟨fuel - 2, by omega⟩
    have hinner : readValue fuel nesting (List.replicate (nesting + 1 + more) '[') =
        .error .tooDeep := ih (by omega)
    rw [Nat.add_right_comm, List.replicate_succ] at hinner
    rw [Nat.add_right_comm, List.replicate_succ, Nat.add_right_comm, List.replicate_succ]
    exact readValue_brackets_of_error hinner

/-- A text of so many brackets. -/
def brackets (count : Nat) : String := String.ofList (List.replicate count '[')

theorem parse_brackets {maxNesting count : Nat} (hcount : maxNesting < count) :
    parse (brackets count) maxNesting = .error .tooDeep := by
  obtain ⟨more, rfl⟩ := Nat.exists_eq_add_of_le (Nat.succ_le_of_lt hcount)
  have hskip : skipSpace (List.replicate (maxNesting + 1 + more) '[') =
      List.replicate (maxNesting + 1 + more) '[' := by
    rw [Nat.add_right_comm, List.replicate_succ]
    rfl
  have hfuel : 2 * maxNesting < 2 * (List.replicate (maxNesting + 1 + more) '[').length + 2 := by
    rw [List.length_replicate]
    omega
  rw [parse, brackets, String.toList_ofList, read, hskip, readValue_replicate hfuel]
  rfl

end Json

/-! ## Lengths on each platform -/

/-- Whether a fault is one of the operating system or one of a value. -/
def Fault.IsTolerable (f : Fault) : Prop := f.isSystem = true ∨ f.isValue = true

theorem Fault.isTolerable_iff (f : Fault) : f.IsTolerable ↔ Ipv6.isOfPrefixSource f = true :=
  Bool.or_eq_true_iff.symm

/-- Whether soliciting routers fails by tolerated faults alone where it opens its socket and where
it sets what is left of its timeout as a limit. -/
structure Host.SolicitsTolerably (h : Host) : Prop where
  opens : FailsOnly h.advertisements Fault.IsTolerable
  waits : h.WaitsBut Ipv6.solicitationTimeout Fault.IsTolerable

namespace Platform

open Ipv6

variable {h : Host} {j : Journal}

/-- Each platform finds a length of use where its sources fail by tolerated faults, and Windows
fails where the search comes to addresses that are nested too deeply. -/
theorem exists_firstLength (hsocket : h.SolicitsTolerably) {table : List Interface}
    (htable : h.interfaces = .ok table) (p : Platform) (interface : String) :
    let search := firstLength (p.lengthSources interface)
    (p = windows ∧ NestsTooDeeply h j interface → (search.runFrom h j).1 = .error .tooDeep) ∧
    (¬(p = windows ∧ NestsTooDeeply h j interface) →
      ∃ n, 1 ≤ n ∧ n ≤ 128 ∧ (search.runFrom h j).1 = .ok n) := by
  dsimp only
  have hrange : ∀ n, ((firstLength (p.lengthSources interface)).runFrom h j).1 = .ok n →
      1 ≤ n ∧ n ≤ 128 := (endsWith_firstLength _).value_of_ok j
  by_cases hp : p = windows
  · subst hp
    obtain ⟨hdeep, hread⟩ := runFrom_firstLength_windows (h := h) (j := j) interface
    refine ⟨fun hnests => hdeep hnests.2, fun hnot => ?_⟩
    obtain ⟨n, hn⟩ := hread fun hnests => hnot ⟨rfl, hnests⟩
    exact ⟨n, (hrange n hn).1, (hrange n hn).2, hn⟩
  · refine ⟨fun hnests => absurd hnests.1 hp, fun _ => ?_⟩
    have htolerated : ∀ s ∈ p.lengthSources interface,
        Inspects h (isOfPrefixSource · = true) s.length := by
      refine inspects_lengthSources (by decide) interface (by decide) ?_ ?_ ?_
        fun hw => absurd hw hp
      · exact fun f hf => f.isTolerable_iff.1 (hsocket.opens f hf)
      · exact fun f hf => f.isTolerable_iff.1 (hsocket.waits f hf)
      · rw [htable]
        exact failsOnly_ok table
    have hok := congrArg Prod.fst (runFrom_firstLength (fun s hs => (htolerated s hs).fails) j)
    exact ⟨_, (hrange _ hok).1, (hrange _ hok).2, hok⟩

theorem nestsTooDeeply_consulting_iff (c : Consultation) (interface : String) :
    NestsTooDeeply h (j.consulting c) interface ↔ NestsTooDeeply h j interface :=
  ⟨fun ⟨huntold, hdeep⟩ => ⟨huntold, hdeep⟩, fun ⟨huntold, hdeep⟩ => ⟨huntold, hdeep⟩⟩

end Platform

/-! ## The line -/

namespace Ipv6

/-- Without a public address there is no line, and nobody is asked.  With one, and interfaces that
can be read, it is a line for the length that the first source tells, in the order of the sources of
the interface, among those that tell a length from 1 to 128; for 128 if there is no interface or no
such source; and the run is that of asking the sources as far as that one.

On each platform the line is for a length from 1 to 128, except on Windows, where there is a fault
in place of a line exactly if the listing tells no length and the addresses are nested too deeply.
-/
theorem findMaskLine_first_of_use (language : Language) (interface : Option String) (h : Host)
    (j : Journal) :
    (∀ n, IsLine (maskLine n language)) ∧
    (∀ sources, (findMaskLine "" language sources interface).runFrom h j = (.ok "", j)) ∧
    ∀ (address : String) (table : List Interface), address ≠ "" → h.interfaces = .ok table →
      let name := usedInterface h table interface
      let line (sources : String → List PrefixSource) :=
        (findMaskLine address language sources interface).runFrom h j
      (interface = none → (∀ i ∈ table, ¬IsUsable h i) → name = "") ∧
      (name = "" → ∀ sources, line sources = (.ok (maskLine 128 language), j)) ∧
      (name ≠ "" →
        (∀ sources, (∀ s ∈ sources name, FailsAt h Fault.IsTolerable s.length) →
          let j' := j.consulting (.interface name)
          let told := (outcomes h ((sources name).map PrefixSource.asked) j').1
          let asked := (sources name).take (told.findIdx (lengthOfUse · |>.isSome) + 1)
          line sources =
            (.ok (maskLine ((told.findSome? lengthOfUse).getD 128) language),
              (outcomes h (asked.map PrefixSource.asked) j').2)) ∧
        (h.SolicitsTolerably → ∀ p : Platform,
          let nests := p = .windows ∧ Platform.NestsTooDeeply h j name
          (nests → (line p.lengthSources).1 = .error .tooDeep) ∧
          (¬nests → ∃ n, 1 ≤ n ∧ n ≤ 128 ∧
            (line p.lengthSources).1 = .ok (maskLine n language)))) := by
  refine ⟨fun n => isLine_maskLine n language,
    fun sources => runFrom_findMaskLine_empty language sources interface,
    fun address table haddress htable => ?_⟩
  intro name line
  have hline (sources : String → List PrefixSource) :
      line sources = (maskLineOn language sources name).runFrom h j := by
    simp only [line]
    rw [findMaskLine_of_ne language sources interface haddress,
      runFrom_bind_of_ok h j (runFrom_usedInterface interface htable)]
  refine ⟨?_, fun hname sources => ?_,
    fun hname => ⟨fun sources hsources => ?_, fun hsocket p => ?_⟩⟩
  · rintro rfl hnone
    exact chooseInterface_eq_empty hnone
  · rw [hline, hname]
    exact runFrom_maskLineOn_empty language sources
  · have htolerated : ∀ s ∈ sources name, FailsAt h (isOfPrefixSource · = true) s.length :=
      fun s hs j' f hf => f.isTolerable_iff.1 (hsources s hs j' f hf)
    have hfirst := runFrom_firstLength htolerated (j.consulting (.interface name))
    dsimp only at hfirst ⊢
    rw [hline, runFrom_maskLineOn language sources hname, runFrom_map, hfirst]
    rfl
  · obtain ⟨hdeep, hread⟩ := Platform.exists_firstLength
      (j := j.consulting (.interface name)) hsocket htable p name
    rw [Platform.nestsTooDeeply_consulting_iff] at hdeep hread
    dsimp only
    rw [hline, runFrom_maskLineOn language _ hname, runFrom_map]
    constructor
    · intro hnests
      rw [hdeep hnests]
      rfl
    · intro hnot
      obtain ⟨n, hlow, hhigh, hn⟩ := hread hnot
      rw [hn]
      exact ⟨n, hlow, hhigh, rfl⟩

/-- A host with a wired interface. -/
def wiredHost : Host where
  timeRefusal := nanosecondRefusal
  interfaces := .ok [⟨"lo", [(.inet, "127.0.0.1")]⟩, ⟨"eth0", []⟩]

/-- Sources of which two fail, one is silent, one tells a length that is of no use, and two tell
lengths of use. -/
def mixedSources : List PrefixSource :=
  [⟨"refused", throw .unavailable⟩, ⟨"unreadable", throw .malformed⟩, ⟨"silent", pure none⟩,
    ⟨"too long", pure (some 129)⟩, ⟨"router", pure (some 64)⟩, ⟨"file", pure (some 48)⟩]

/-- The first of the two lengths of use counts, and the source of the other one is not asked. -/
theorem findMaskLine_first_of_use_wiredHost :
    let run := (findMaskLine "2001:db8::1" .english fun _ => mixedSources).runFrom wiredHost {}
    run.1 = .ok (maskLine 64 .english) ∧
      run.2.consultations = .interface "eth0" ::
        ["refused", "unreadable", "silent", "too long", "router"].map .prefixLength ∧
      ∃ n, 1 ≤ n ∧ n ≤ 128 ∧ ((findMaskLine "2001:db8::1" .english
        Platform.linux.lengthSources).runFrom wiredHost {}).1 = .ok (maskLine n .english) := by
  obtain ⟨-, -, hfound⟩ := findMaskLine_first_of_use .english none wiredHost {}
  obtain ⟨-, -, hnamed⟩ := hfound "2001:db8::1" _ (by decide) rfl
  obtain ⟨hsources, hplatform⟩ := hnamed (by decide)
  have hmixed : ∀ s ∈ mixedSources, FailsAt wiredHost Fault.IsTolerable s.length := by
    simp only [mixedSources, List.forall_mem_cons]
    exact ⟨(inspects_throw (.inl rfl)).fails, (inspects_throw (.inr rfl)).fails,
      (inspects_pure _).fails, (inspects_pure _).fails, (inspects_pure _).fails,
      (inspects_pure _).fails, nofun⟩
  have hrun := hsources (fun _ => mixedSources) hmixed
  have hsocket : wiredHost.SolicitsTolerably :=
    ⟨failsOnly_error (.inl rfl), Host.waitsBut_of_nanoseconds (by rw [wiredHost]) 5 (by decide) _⟩
  refine ⟨?_, ?_, (hplatform hsocket .linux).2 fun hnests => nomatch hnests.1⟩
  · dsimp only at hrun ⊢
    rw [hrun]
    rfl
  · dsimp only at hrun ⊢
    rw [hrun]
    rfl

/-- A Windows host whose only tool tells addresses that are nested a hundred thousand deep. -/
def nestingHost : Host where
  system := "Windows"
  timeRefusal := nanosecondRefusal
  interfaces := .ok [⟨"Ethernet", []⟩]
  interfacesUp := [("Ethernet", true)]
  commands :=
    [(" ".intercalate (Platform.addressWords "Ethernet"), [.exited 0 (Json.brackets 100000) ""])]

theorem nestsTooDeeply_nestingHost : Platform.NestsTooDeeply nestingHost {} "Ethernet" where
  untold := by
    have hother : " ".intercalate Platform.listingWords ≠
        " ".intercalate (Platform.addressWords "Ethernet") :=
      (Platform.addressWords_ne_listingWords "Ethernet").symm
    have hmissing : nestingHost.nextResult {} Platform.listingWords = .missing := by
      rw [Host.nextResult, Host.find, nestingHost, List.lookup_cons, beq_false_of_ne hother]
      rfl
    rw [Host.nextOutput, hmissing]
    decide
  tooDeep := by
    have hfound : nestingHost.nextResult {} (Platform.addressWords "Ethernet") =
        .exited 0 (Json.brackets 100000) "" := by
      rw [Host.nextResult, Host.find, nestingHost, List.lookup_cons, beq_self_eq_true]
      rfl
    rw [Host.nextOutput, hfound]
    exact Json.parse_brackets (by decide)

/-- Not every platform gives a line on every host. -/
theorem not_platforms_find_length :
    ¬∀ (p : Platform) (h : Host) (table : List Interface), h.interfaces = .ok table →
      h.SolicitsTolerably →
      ∃ n, 1 ≤ n ∧ n ≤ 128 ∧ ((findMaskLine "2001:db8::1" .english p.lengthSources).runFrom
        h {}).1 = .ok (maskLine n .english) := by
  intro hfinds
  have hsocket : nestingHost.SolicitsTolerably :=
    ⟨failsOnly_error (.inl rfl), Host.waitsBut_of_nanoseconds (by rw [nestingHost]) 5 (by decide) _⟩
  obtain ⟨n, -, -, hline⟩ := hfinds .windows nestingHost _ rfl hsocket
  have hsearch := (Platform.exists_firstLength
    (j := Journal.consulting {} (.interface "Ethernet")) hsocket rfl .windows "Ethernet").1
    ⟨rfl, (Platform.nestsTooDeeply_consulting_iff _ _).2 nestsTooDeeply_nestingHost⟩
  have hinterface : usedInterface nestingHost [⟨"Ethernet", []⟩] none = "Ethernet" := by decide
  rw [findMaskLine_of_ne _ _ none (by decide),
    runFrom_bind_of_ok nestingHost {} (runFrom_usedInterface none rfl), hinterface,
    runFrom_maskLineOn .english _ (by decide), runFrom_map, hsearch] at hline
  exact nomatch hline

end Ipv6

end HostReport
