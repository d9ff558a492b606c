import HostReport.Proofs.GeoIp.Lookup
import HostReport.Proofs.Text.FirstKnown
import Mathlib.Data.List.Perm.Basic

/-!
# Answers in whatever order they come

All sources are asked at the same time, and their answers come in as they are ready.  A task asks
one source about one family; `askInOrder` makes the tasks in any order, of which that of the table
is one.  What is merged from the answers does not depend on the order: of each family that is asked
about, every field is the first known one in the order of the table, and nothing is known exactly if
no source has answered.
-/

namespace HostReport

/-! ## The first known value of each field -/

namespace IpInfo

/-- The identity in which every field is the first known one of several identities. -/
def ofFirstKnown (is : List IpInfo) : IpInfo where
  ip := firstKnown (is.map (·.ip))
  asn := firstKnown (is.map (·.asn))
  org := firstKnown (is.map (·.org))
  country := firstKnown (is.map (·.country))
  region := firstKnown (is.map (·.region))
  city := firstKnown (is.map (·.city))

/-- Filling from one identity after another leaves the first known value of each field. -/
theorem foldl_fill_eq_ofFirstKnown (i : IpInfo) (is : List IpInfo) :
    is.foldl fill i = ofFirstKnown (i :: is) := by
  induction is generalizing i with
  | nil => simp only [ofFirstKnown, List.map_cons, List.map_nil, firstKnown_singleton, List.foldl_nil]
  | cons k is ih =>
    rw [List.foldl_cons, ih]
    simp only [ofFirstKnown, fill, List.map_cons, firstKnown_chooseText]

theorem merged_eq_none_iff {is : List IpInfo} : merged is = none ↔ is = [] := by
  cases is <;> simp [merged]

theorem merged_eq_some_iff {is : List IpInfo} {i : IpInfo} :
    merged is = some i ↔ is ≠ [] ∧ i = ofFirstKnown is := by
  cases is with
  | nil => simp [merged]
  | cons first rest => simp [merged, foldl_fill_eq_ofFirstKnown, eq_comm]

/-- Without answers there is nothing to merge. -/
theorem mergeByPriority_nil (order : List String) : mergeByPriority [] order = none := by
  induction order with
  | nil => rfl
  | cons name order ih => exact ih

end IpInfo

/-! ## Tasks -/

/-- The tasks of a check: each of its families asked of each source of the table. -/
def CheckType.tasks (check : CheckType) (sources : List GeoSource) : List (Family × GeoSource) :=
  check.families.flatMap fun family => sources.map fun s => (family, s)

/-- Makes tasks one after another. -/
def askInOrder (order : List (Family × GeoSource)) (settings : Settings) :
    HostM (List (Family × String × Option IpInfo)) :=
  HostM.all (order.map fun t => do return (t.1, ← t.2.ask t.1.name settings))

theorem CheckType.mem_tasks_iff {check : CheckType} {sources : List GeoSource} {family : Family}
    {s : GeoSource} : (family, s) ∈ check.tasks sources ↔ family ∈ check.families ∧ s ∈ sources := by
  simp [tasks]

/-- The order of the table is one of the orders in which the tasks of a check can be made. -/
theorem askSources_eq_askInOrder (check : CheckType) (sources : List GeoSource)
    (settings : Settings) :
    askSources check.families settings sources = askInOrder (check.tasks sources) settings := by
  rw [askSources, askInOrder, CheckType.tasks, List.map_flatMap]
  simp only [List.map_map, Function.comp_def]

/-- The tasks about one family ask each source of the table once if the family is asked about. -/
theorem CheckType.filter_tasks (check : CheckType) (sources : List GeoSource) (family : Family) :
    (check.tasks sources).filter (·.1 = family) =
      if family ∈ check.families then sources.map fun s => (family, s) else [] := by
  have hone : ∀ family' : Family, (sources.map fun s => (family', s)).filter (·.1 = family) =
      if family' = family then sources.map fun s => (family', s) else [] := by
    intro family'
    by_cases heq : family' = family <;> simp [List.filter_map, Function.comp_def, heq]
  cases check <;> cases family <;>
    simp [tasks, families, List.filter_append, hone]

/-! ## What the answers are -/

/-- What is known after a lookup: nothing, if it has ended with a fault. -/
def knownFrom (outcome : Except Fault (Option IpInfo)) : Option IpInfo := outcome.toOption.join

/-- What the lookups of a check give on a host, where each of them gives what it gives whenever it
is made, and no fault escapes from its source. -/
structure CheckType.Shows (check : CheckType) (sources : List GeoSource) (settings : Settings)
    (h : Host) (outcome : Family → GeoSource → Except Fault (Option IpInfo)) : Prop where
  lookup : ∀ family ∈ check.families, ∀ s ∈ sources, ∀ j,
    ((s.lookup family.name settings).runFrom h j).1 = outcome family s
  contained : ∀ family ∈ check.families, ∀ s ∈ sources, Contained (outcome family s)

/-- Guarding a lookup guards what it gives. -/
theorem runFrom_guarded (lookup : HostM (Option IpInfo)) (h : Host) (j : Journal) :
    ((guarded lookup).runFrom h j).1 = guardedReading (lookup.runFrom h j).1 := by
  rw [guarded, HostM.runFrom_orElseOn, guardedReading]
  rcases lookup.runFrom h j with ⟨f | a, j'⟩
  · by_cases hf : f.isOfSource <;> simp [tolerate, hf]
  · rfl

/-- A question to a source gives what is known from its lookup, under the name of the source. -/
theorem runFrom_question {lookup : HostM (Option IpInfo)} {h : Host}
    {outcome : Except Fault (Option IpInfo)} (hlookup : ∀ j, (lookup.runFrom h j).1 = outcome)
    (hcontained : Contained outcome) (c : Consultation) (name : String) (j : Journal) :
    ((do HostM.consult c; return (name, ← guarded lookup) :
        HostM (String × Option IpInfo)).runFrom h j).1 = .ok (name, knownFrom outcome) := by
  have hguarded : ∀ j', ((guarded lookup).runFrom h j').1 = .ok (knownFrom outcome) := by
    intro j'
    rw [runFrom_guarded, hlookup j']
    exact (guardedReading_eq_ok_iff _ _).2 ⟨hcontained, rfl⟩
  rw [HostM.runFrom_bind_of_ok h j (HostM.runFrom_consult h j c), HostM.runFrom_bind_eq_ok_iff]
  exact ⟨_, hguarded _, rfl⟩

section

variable {check : CheckType} {sources : List GeoSource} {settings : Settings} {h : Host}
  {outcome : Family → GeoSource → Except Fault (Option IpInfo)}

/-- A task gives what its lookup shows, with the family and the name of the source. -/
theorem CheckType.Shows.task (hshows : check.Shows sources settings h outcome)
    {t : Family × GeoSource} (ht : t ∈ check.tasks sources) (j : Journal) :
    ((do return (t.1, ← t.2.ask t.1.name settings) :
        HostM (Family × String × Option IpInfo)).runFrom h j).1 =
      .ok (t.1, t.2.name, knownFrom (outcome t.1 t.2)) := by
  obtain ⟨hfamily, hs⟩ := CheckType.mem_tasks_iff.1 ht
  have hask : ((t.2.ask t.1.name settings).runFrom h j).1 =
      .ok (t.2.name, knownFrom (outcome t.1 t.2)) :=
    runFrom_question (hshows.lookup t.1 hfamily t.2 hs) (hshows.contained t.1 hfamily t.2 hs) _ _ j
  rw [HostM.runFrom_bind_eq_ok_iff]
  exact ⟨_, hask, rfl⟩

/-- Tasks made in any order give an answer each, in this order. -/
theorem CheckType.Shows.askInOrder (hshows : check.Shows sources settings h outcome)
    {order : List (Family × GeoSource)} (horder : order.Perm (check.tasks sources)) (j : Journal) :
    ((HostReport.askInOrder order settings).runFrom h j).1 =
      .ok (order.map fun t => (t.1, t.2.name, knownFrom (outcome t.1 t.2))) := by
  rw [HostReport.askInOrder]
  exact HostM.runFrom_all_of_forall h j fun t ht => hshows.task (horder.mem_iff.1 ht)

/-- Whatever the order of the answers, what is known of a family that is asked about is merged from
what its sources know, in the order of the table, and of any other family nothing is known. -/
theorem identityOf_perm (hnames : (sources.map (·.name)).Nodup)
    (known : Family → GeoSource → Option IpInfo) {order : List (Family × GeoSource)}
    (horder : order.Perm (check.tasks sources)) (family : Family) :
    identityOf family (order.map fun t => (t.1, t.2.name, known t.1 t.2)) sources =
      if family ∈ check.families then IpInfo.merged (sources.filterMap (known family)) else none := by
  have habout : answersAbout family (order.map fun t => (t.1, t.2.name, known t.1 t.2)) =
      (order.filter (·.1 = family)).map fun t => (t.2.name, known t.1 t.2) := by
    rw [answersAbout, List.filter_map, List.map_map]
    rfl
  have hfiltered := horder.filter (·.1 = family)
  rw [check.filter_tasks] at hfiltered
  rw [identityOf, habout]
  by_cases hfamily : family ∈ check.families
  · rw [if_pos hfamily] at hfiltered ⊢
    -- the answers about one family carry the names of the table, in some order
    have hdistinct : ((order.filter (·.1 = family)).map fun t => t.2.name).Nodup := by
      refine (hfiltered.map _).nodup_iff.2 ?_
      rw [List.map_map]
      exact hnames
    refine IpInfo.mergeByPriority_eq_merged fun s hs => ?_
    have hasked : (family, s) ∈ order.filter (·.1 = family) :=
      hfiltered.mem_iff.2 (List.mem_map_of_mem hs)
    exact lookup_map_of_nodup hdistinct hasked
  · rw [if_neg hfamily] at hfiltered ⊢
    rw [hfiltered.eq_nil]
    exact IpInfo.mergeByPriority_nil _

end

/-! ## The order does not matter -/

/-- Where the names of a table are distinct and no fault escapes from a source, the tasks of a check
give their answers in whatever order they are made, and what is known of each family does not depend
on that order.  Of a family that is asked about nothing is known exactly if no source has answered;
otherwise each field is the first known one among the sources that have answered, in the order of
the table.  Of a family that is not asked about nothing is known, and what the sources answer about
one family says nothing about the other.  It is these identities that a lookup goes on to complete.
-/
theorem identities_of_any_order {check : CheckType} {sources : List GeoSource}
    {settings : Settings} {h : Host}
    {outcome : Family → GeoSource → Except Fault (Option IpInfo)}
    (hnames : (sources.map (·.name)).Nodup) (hshows : check.Shows sources settings h outcome)
    {order : List (Family × GeoSource)} (horder : order.Perm (check.tasks sources)) (j : Journal) :
    ∃ answers, ((askInOrder order settings).runFrom h j).1 = .ok answers ∧
      (∀ family, family ∉ check.families → identityOf family answers sources = none) ∧
      (∀ family ∈ check.families,
        (identityOf family answers sources = none ↔
          ∀ s ∈ sources, knownFrom (outcome family s) = none) ∧
        ∀ i, identityOf family answers sources = some i →
          i = IpInfo.ofFirstKnown (sources.filterMap fun s => knownFrom (outcome family s))) ∧
      (0 < settings.maxWorkers → ∀ asnSources,
        (lookUpIdentities check settings sources asnSources).runFrom h j =
          (do return {
              ipv4 := ← completed .ipv4 (identityOf .ipv4 answers sources) settings asnSources
              ipv6 := ← completed .ipv6 (identityOf .ipv6 answers sources) settings asnSources } :
            HostM Identities).runFrom h
              ((askSources check.families settings sources).runFrom h j).2) := by
  have hidentity : ∀ order : List (Family × GeoSource), order.Perm (check.tasks sources) →
      ∀ family, identityOf family
          (order.map fun t => (t.1, t.2.name, knownFrom (outcome t.1 t.2))) sources =
        if family ∈ check.families then
          IpInfo.merged (sources.filterMap fun s => knownFrom (outcome family s))
        else none := by
    intro order horder family
    exact identityOf_perm hnames (fun family s => knownFrom (outcome family s)) horder family
  refine ⟨_, hshows.askInOrder horder j, fun family hfamily => ?_, fun family hfamily => ?_,
    fun hworkers asnSources => ?_⟩
  · rw [hidentity order horder family, if_neg hfamily]
  · rw [hidentity order horder family, if_pos hfamily]
    refine ⟨?_, fun i hi => (IpInfo.merged_eq_some_iff.1 hi).2⟩
    rw [IpInfo.merged_eq_none_iff, List.filterMap_eq_nil_iff]
  · have htable := hshows.askInOrder (List.Perm.refl (check.tasks sources)) j
    rw [← askSources_eq_askInOrder] at htable
    have hasked : (askSources check.families settings sources).runFrom h j =
        (.ok _, ((askSources check.families settings sources).runFrom h j).2) :=
      Prod.ext htable rfl
    rw [lookUpIdentities, HostM.runFrom_bind_of_ok h j (runFrom_requireWorkers h j hworkers),
      HostM.runFrom_bind_of_ok h j hasked]
    simp only [hidentity order horder, hidentity _ (List.Perm.refl _)]

/-- A source that gives the same whenever it is asked. -/
def GeoSource.fixed (name : String) (outcome : String → Except Fault (Option IpInfo)) :
    GeoSource where
  name := name
  lookup family _ := HostM.ofExcept (outcome family)

/-- A source that knows some fields over IPv4 and fails over IPv6, and one that knows other fields
over both. -/
def twoSources : List GeoSource :=
  [.fixed "first" fun family =>
      if family = "ipv4" then .ok (some { ip := "1.1.1.1", asn := "1", city := "First City" })
      else .error (.fetch (.unreachable "http://first.example" "no route")),
    .fixed "second" fun _ =>
      .ok (some { ip := "2.2.2.2", asn := "2", org := "Second Org", country := "XX" })]

/-- What a lookup of a source gives on a host of which nothing is known. -/
def shownAlone (family : Family) (s : GeoSource) : Except Fault (Option IpInfo) :=
  ((s.lookup family.name {}).runFrom {} {}).1

theorem shownAlone_fixed (family : Family) (name : String)
    (outcome : String → Except Fault (Option IpInfo)) :
    shownAlone family (.fixed name outcome) = outcome family.name := by
  rw [shownAlone, GeoSource.fixed, HostM.runFrom_ofExcept]

theorem identities_of_any_order_lastFirst :
    (twoSources.map (·.name)).Nodup ∧ CheckType.both.Shows twoSources {} {} shownAlone ∧
      (CheckType.both.tasks twoSources).reverse.Perm (CheckType.both.tasks twoSources) ∧
      ∃ answers,
        ((askInOrder (CheckType.both.tasks twoSources).reverse {}).runFrom {} {}).1 = .ok answers ∧
        identityOf .ipv4 answers twoSources =
          some { ip := "1.1.1.1", asn := "1", org := "Second Org", country := "XX",
                 city := "First City" } := by
  have hnames : (twoSources.map (·.name)).Nodup := by decide
  have hshows : CheckType.both.Shows twoSources {} {} shownAlone := by
    constructor
    · intro family _ s hs j
      simp only [twoSources, List.mem_cons, List.not_mem_nil, or_false] at hs
      rcases hs with rfl | rfl <;> rw [shownAlone_fixed, GeoSource.fixed, HostM.runFrom_ofExcept]
    · intro family _ s hs
      simp only [twoSources, List.mem_cons, List.not_mem_nil, or_false] at hs
      rcases hs with rfl | rfl <;> rw [shownAlone_fixed]
      · by_cases hfamily : family.name = "ipv4" <;> simp [hfamily, Fault.isOfSource]
      · exact contained_ok _
  have horder := List.reverse_perm (CheckType.both.tasks twoSources)
  obtain ⟨answers, hanswers, -, hfamilies, -⟩ := identities_of_any_order hnames hshows horder {}
  refine ⟨hnames, hshows, horder, answers, hanswers, ?_⟩
  obtain ⟨hnone, hsome⟩ := hfamilies .ipv4 (by decide)
  cases hi : identityOf .ipv4 answers twoSources with
  | none =>
    have hsilent := hnone.1 hi _ List.mem_cons_self
    rw [shownAlone_fixed] at hsilent
    exact absurd hsilent (by decide)
  | some i =>
    rw [hsome i hi]
    simp only [twoSources, List.filterMap_cons, List.filterMap_nil, shownAlone_fixed]
    decide

end HostReport
