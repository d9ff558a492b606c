import HostReport.Proofs.GeoIp.FanIn

/-!
# The network of a record

A record that has a location and an address but no network number is completed from the sources of
networks.  All of them are asked, and their answers come in as they are ready; they are then gone
through in the order of the table.  The first number decides and ends the search, while the owner is
the first one that is known when the search ends: an owner may come from a source before the one
with the number, and never from a source behind it.
-/

namespace HostReport

namespace IpInfo

/-! ## Number and owner -/

/-- The answers as far as the first that knows a number, with that one; all of them if none does. -/
def throughNumber (others : List IpInfo) : List IpInfo :=
  others.take (others.findIdx (·.asn ≠ "") + 1)

@[simp] theorem throughNumber_nil : throughNumber [] = [] := rfl

theorem throughNumber_cons_of_known {other : IpInfo} (hknown : other.asn ≠ "")
    (others : List IpInfo) : throughNumber (other :: others) = [other] := by
  simp [throughNumber, List.findIdx_cons, hknown]

theorem throughNumber_cons_of_unknown {other : IpInfo} (hunknown : other.asn = "")
    (others : List IpInfo) :
    throughNumber (other :: others) = other :: throughNumber others := by
  simp [throughNumber, List.findIdx_cons, hunknown]

/-- The record with the first known number, and with its own owner or else the first one that is
known as far as the number. -/
def withNumberAndOwner (i : IpInfo) (others : List IpInfo) : IpInfo :=
  { i with
    asn := firstKnown (others.map (·.asn))
    org := firstKnown (i.org :: (throughNumber others).map (·.org)) }

/-- Going through answers leaves a record without a number with the first known number, and with the
owner that is known first as far as that. -/
theorem fillNetworkFrom_eq_withNumberAndOwner {i : IpInfo} (hi : i.asn = "")
    (others : List IpInfo) : i.fillNetworkFrom others = i.withNumberAndOwner others := by
  induction others generalizing i with
  | nil =>
    have hnone : i.withNumberAndOwner [] = { i with asn := "" } := by
      rw [withNumberAndOwner, throughNumber_nil, List.map_nil, List.map_nil, firstKnown_singleton]
      rfl
    rw [hnone, fillNetworkFrom, ← hi]
  | cons other others ih =>
    have hchosen : chooseText i.asn other.asn = other.asn := by
      rw [hi]
      rfl
    rw [fillNetworkFrom]
    dsimp only
    rw [hchosen]
    by_cases hknown : other.asn = ""
    · -- the search goes on with the owner that is known by now
      have hrest := ih (i := { i with asn := other.asn, org := chooseText i.org other.org }) hknown
      rw [if_pos (by rw [hknown]; rfl), hrest, withNumberAndOwner, withNumberAndOwner,
        throughNumber_cons_of_unknown hknown]
      simp only [List.map_cons, firstKnown_chooseText, hknown]
      rfl
    · have hnumber : firstKnown ((other :: others).map (·.asn)) = other.asn := by
        simp [firstKnown, hknown]
      rw [if_neg (by simpa using hknown), withNumberAndOwner, throughNumber_cons_of_known hknown,
        hnumber, List.map_singleton, ← firstKnown_chooseText, firstKnown_singleton]

/-- A record whose network is not looked up has no location, or a number, or no address. -/
theorem seeksNetwork_eq_false_iff (i : IpInfo) :
    i.seeksNetwork = false ↔
      i.country = "" ∧ i.region = "" ∧ i.city = "" ∨ i.asn ≠ "" ∨ i.ip = "" := by
  simp only [seeksNetwork, needsAsn, hasGeo, ← Bool.not_eq_true, Bool.and_eq_true,
    Bool.not_eq_true', String.isEmpty_iff, ne_eq]
  tauto

end IpInfo

/-! ## Completing in any order -/

/-- Asks sources of networks about an address, one after another. -/
def askNetworksInOrder (order : List AsnSource) (ip family : String) (settings : Settings) :
    HostM (List (String × Option IpInfo)) :=
  HostM.all (order.map fun s => s.ask ip family settings)

/-- Completes a record from the sources of a table, whose answers come in in this order. -/
def IpInfo.completeInOrder (i : IpInfo) (order : List AsnSource) (family : String)
    (settings : Settings) (sources : List AsnSource) : HostM IpInfo := do
  if !i.needsAsn || i.ip.isEmpty then return i
  requireWorkers (min settings.maxWorkers (max sources.length 1))
  let answers ← askNetworksInOrder order i.ip family settings
  return fillNetwork answers i (sources.map (·.name))

/-- The order of the table is one of the orders in which the answers can come in. -/
theorem IpInfo.completeNetwork_eq_completeInOrder (i : IpInfo) (family : String)
    (settings : Settings) (sources : List AsnSource) :
    i.completeNetwork family settings sources =
      i.completeInOrder sources family settings sources := rfl

/-- What the sources of a table tell about an address on a host, where each of them tells what it
tells whenever it is asked, and no fault escapes from its source. -/
structure AsnSource.Tell (sources : List AsnSource) (ip family : String) (settings : Settings)
    (h : Host) (outcome : AsnSource → Except Fault (Option IpInfo)) : Prop where
  lookup : ∀ s ∈ sources, ∀ j, ((s.lookup ip family settings).runFrom h j).1 = outcome s
  contained : ∀ s ∈ sources, Contained (outcome s)

section

variable {sources : List AsnSource} {ip family : String} {settings : Settings} {h : Host}
  {outcome : AsnSource → Except Fault (Option IpInfo)}

/-- A source that is asked gives its name and what is known from it. -/
theorem AsnSource.Tell.ask (htell : AsnSource.Tell sources ip family settings h outcome)
    {s : AsnSource} (hs : s ∈ sources) (j : Journal) :
    ((s.ask ip family settings).runFrom h j).1 = .ok (s.name, knownFrom (outcome s)) :=
  runFrom_question (htell.lookup s hs) (htell.contained s hs) _ _ j

/-- Asked in any order, each source of the table gives its answer under its own name. -/
theorem AsnSource.Tell.askNetworksInOrder
    (htell : AsnSource.Tell sources ip family settings h outcome) {order : List AsnSource}
    (horder : order.Perm sources) (j : Journal) :
    ((HostReport.askNetworksInOrder order ip family settings).runFrom h j).1 =
      .ok (order.map fun s => (s.name, knownFrom (outcome s))) := by
  rw [HostReport.askNetworksInOrder]
  exact HostM.runFrom_all_of_forall h j fun s hs => htell.ask (horder.mem_iff.1 hs)

/-- Whatever the order of the answers, a record is filled from what the sources know in the order of
their table. -/
theorem IpInfo.fillNetwork_perm (hnames : (sources.map (·.name)).Nodup)
    (known : AsnSource → Option IpInfo) {order : List AsnSource} (horder : order.Perm sources)
    (i : IpInfo) :
    fillNetwork (order.map fun s => (s.name, known s)) i (sources.map (·.name)) =
      i.fillNetworkFrom (sources.filterMap known) := by
  have hdistinct : (order.map (·.name)).Nodup := (horder.map _).nodup_iff.2 hnames
  exact fillNetwork_eq_fillNetworkFrom
    (fun s hs => lookup_map_of_nodup hdistinct (horder.mem_iff.2 hs)) i

end

theorem IpInfo.completeInOrder_of_not_seeksNetwork {i : IpInfo} (hi : i.seeksNetwork = false)
    (order : List AsnSource) (family : String) (settings : Settings) (sources : List AsnSource) :
    i.completeInOrder order family settings sources = return i := by
  rw [completeInOrder, i.not_seeksNetwork, hi]
  rfl

theorem IpInfo.completeInOrder_of_seeksNetwork {i : IpInfo} (hi : i.seeksNetwork = true)
    {settings : Settings} (hworkers : 0 < settings.maxWorkers) (order : List AsnSource)
    (family : String) (sources : List AsnSource) (h : Host) (j : Journal) :
    (i.completeInOrder order family settings sources).runFrom h j =
      (do
        let answers ← askNetworksInOrder order i.ip family settings
        return fillNetwork answers i (sources.map (·.name)) : HostM IpInfo).runFrom h j := by
  rw [completeInOrder, i.not_seeksNetwork, hi, if_neg (by decide),
    HostM.runFrom_bind_of_ok h j (runFrom_requireWorkers_forSources h j hworkers sources)]

/-- A record that has no location, or a number already, or no address, is left as it is, and no
source is asked.  Any other record is completed in whatever order the answers of the sources come
in, that of the table among them, where their names are distinct and no fault escapes from a source.
Its number is then the first one that is known in the order of the table, empty if none is.  Its
owner stays if there is one, and is otherwise the first one that is known among the sources as far
as the one with that number, or among all of them.  Nothing else of the record changes. -/
theorem completeNetwork_of_any_order (i : IpInfo) (family : String) (settings : Settings)
    (sources : List AsnSource) (h : Host) (j : Journal) :
    (i.country = "" ∧ i.region = "" ∧ i.city = "" ∨ i.asn ≠ "" ∨ i.ip = "" →
      (i.completeNetwork family settings sources).runFrom h j = (.ok i, j)) ∧
    (¬(i.country = "" ∧ i.region = "" ∧ i.city = "" ∨ i.asn ≠ "" ∨ i.ip = "") →
      0 < settings.maxWorkers → (sources.map (·.name)).Nodup →
      ∀ outcome, AsnSource.Tell sources i.ip family settings h outcome →
      ∀ order, order.Perm sources →
        ((i.completeInOrder order family settings sources).runFrom h j).1 =
            .ok { i with
              asn := firstKnown
                ((sources.filterMap fun s => knownFrom (outcome s)).map (·.asn))
              org := firstKnown (i.org ::
                (IpInfo.throughNumber
                  (sources.filterMap fun s => knownFrom (outcome s))).map (·.org)) } ∧
          i.completeNetwork family settings sources =
            i.completeInOrder sources family settings sources) := by
  simp only [← IpInfo.seeksNetwork_eq_false_iff]
  refine ⟨fun hi => ?_, fun hi hworkers hnames outcome htell order horder => ⟨?_, rfl⟩⟩
  · rw [IpInfo.completeNetwork_eq_completeInOrder, IpInfo.completeInOrder_of_not_seeksNetwork hi]
    rfl
  · have hseeks : i.seeksNetwork = true := by simpa using hi
    have hnumber : i.asn = "" := by
      by_contra hnumber
      exact hi ((i.seeksNetwork_eq_false_iff).2 (.inr (.inl hnumber)))
    rw [IpInfo.completeInOrder_of_seeksNetwork hseeks hworkers, HostM.runFrom_bind_eq_ok_iff]
    refine ⟨_, htell.askNetworksInOrder horder j, ?_⟩
    rw [HostM.runFrom_pure, IpInfo.fillNetwork_perm hnames (fun s => knownFrom (outcome s)) horder,
      IpInfo.fillNetworkFrom_eq_withNumberAndOwner hnumber]
    rfl

/-- A source of networks that tells the same whenever it is asked. -/
def AsnSource.fixed (name : String) (outcome : Except Fault (Option IpInfo)) : AsnSource where
  name := name
  lookup _ _ _ := HostM.ofExcept outcome

/-- A source that fails, one that knows an owner only, one that knows number and owner, and one
behind them that knows both as well. -/
def fourNetworks : List AsnSource :=
  [.fixed "failing" (.error (.fetch (.unreachable "http://failing.example" "no route"))),
    .fixed "owner" (.ok (some { org := "First Owner" })),
    .fixed "number" (.ok (some { asn := "64500", org := "Second Owner" })),
    .fixed "behind" (.ok (some { asn := "64501", org := "Third Owner" }))]

/-- A record with a location and an address, and without a network. -/
def placedOnly : IpInfo where
  ip := "203.0.113.7"
  city := "Some City"

/-- What a source of networks tells of an address on a host of which nothing is known. -/
def toldAlone (s : AsnSource) : Except Fault (Option IpInfo) :=
  ((s.lookup placedOnly.ip "ipv4" {}).runFrom {} {}).1

theorem toldAlone_fixed (name : String) (outcome : Except Fault (Option IpInfo)) :
    toldAlone (.fixed name outcome) = outcome := by
  rw [toldAlone, AsnSource.fixed, HostM.runFrom_ofExcept]

/-- With the answers coming in from the last to the first, the number is still that of the third
source, and the owner the one that the second source knows. -/
theorem completeNetwork_of_any_order_lastFirst :
    ¬(placedOnly.country = "" ∧ placedOnly.region = "" ∧ placedOnly.city = "" ∨
        placedOnly.asn ≠ "" ∨ placedOnly.ip = "") ∧
      0 < ({} : Settings).maxWorkers ∧ (fourNetworks.map (·.name)).Nodup ∧
      AsnSource.Tell fourNetworks placedOnly.ip "ipv4" {} {} toldAlone ∧
      fourNetworks.reverse.Perm fourNetworks ∧
      ((placedOnly.completeInOrder fourNetworks.reverse "ipv4" {} fourNetworks).runFrom {} {}).1 =
        .ok { ip := "203.0.113.7", asn := "64500", org := "First Owner", city := "Some City" } := by
  have hseeks : ¬(placedOnly.country = "" ∧ placedOnly.region = "" ∧ placedOnly.city = "" ∨
      placedOnly.asn ≠ "" ∨ placedOnly.ip = "") := by decide
  have hworkers : 0 < ({} : Settings).maxWorkers := by decide
  have hnames : (fourNetworks.map (·.name)).Nodup := by decide
  have htell : AsnSource.Tell fourNetworks placedOnly.ip "ipv4" {} {} toldAlone := by
    constructor
    · intro s hs j
      simp only [fourNetworks, List.mem_cons, List.not_mem_nil, or_false] at hs
      rcases hs with rfl | rfl | rfl | rfl <;>
        rw [toldAlone_fixed, AsnSource.fixed, HostM.runFrom_ofExcept]
    · intro s hs
      simp only [fourNetworks, List.mem_cons, List.not_mem_nil, or_false] at hs
      rcases hs with rfl | rfl | rfl | rfl <;> rw [toldAlone_fixed] <;> simp [Fault.isOfSource]
  have horder := List.reverse_perm fourNetworks
  obtain ⟨-, hcompleted⟩ := completeNetwork_of_any_order placedOnly "ipv4" {} fourNetworks {} {}
  obtain ⟨hgiven, -⟩ := hcompleted hseeks hworkers hnames toldAlone htell _ horder
  refine ⟨hseeks, hworkers, hnames, htell, horder, hgiven.trans ?_⟩
  simp only [fourNetworks, List.filterMap_cons, List.filterMap_nil, toldAlone_fixed]
  decide

end HostReport
