import HostReport.AddressTranslation.Detect
import HostReport.Proofs.AddressTranslation.Inquiry

/-!
# Servers asked one after another

A server is usable if asking it gives a kind.  Asking takes calls of the operating system, each of
which may fail; whatever bytes reach the socket, it fails by nothing but the faults of these calls
and of a port that is no number: an answer that a client takes is a decoded response, which carries
the mapped address that the inquiry needs.  A fault of the operating system or of a value makes this
one server unusable, and any other fault goes on.  So where the calls fail by no others, a search
always ends with a kind, that of the first usable server that shows a definite one, and the servers
behind it are left alone.
-/

namespace HostReport

open Stun

/-- Whether an answer carries a mapped address if there is one. -/
def IsMapped (answer : Option Response) : Prop := ∀ r, answer = some r → r.mapped.isSome

/-- A request of a client fails where the socket refuses a time limit, and what it answers is a
decoded response. -/
theorem Stun.Client.endsWith_request (client : Client) {h : Host} {fault : Fault → Prop}
    (hwaits : h.WaitsBut client.timeout fault) (server : Endpoint) (changeIp changePort : Bool) :
    (client.request server changeIp changePort).EndsWith h IsMapped fault := by
  have hcourse : ∀ queue j, ∃ outcome s' sends,
      client.Course h ⟨server, changeIp, changePort⟩ ⟨j, queue⟩ client.attempts outcome s' sends :=
    fun queue j => exists_course client h _ _ _
  intro queue
  constructor
  · intro j result hok
    obtain ⟨outcome, s', sends, hcourse⟩ := hcourse queue j
    have hrun := (congrArg Prod.fst hcourse.ends).symm.trans hok
    obtain ⟨answer, rfl, rfl⟩ := HostM.map_eq_ok_iff.1 hrun
    rintro r rfl
    obtain ⟨k, -, -, d, -, _, _, -, -, haccepted⟩ := (hcourse.answer_iff r).1 rfl
    exact mapped_isSome_of_decodeResponse (decodeResponse_of_accepted haccepted)
  · intro j f herror
    obtain ⟨outcome, s', sends, hcourse⟩ := hcourse queue j
    have hrun := (congrArg Prod.fst hcourse.ends).symm.trans herror
    exact hwaits f (hcourse.refusesLeftOf (HostM.map_eq_error_iff.1 hrun))

/-! ## Inquiries whose answers are decoded -/

/-- Whether an inquiry fails only where an answer carries no mapped address. -/
def Inquiry.RestsOnMapped : Inquiry → Prop
  | concluded _ => True
  | failed _ => False
  | test _ next => ∀ answer, IsMapped answer → (next answer).RestsOnMapped

theorem NatType.restsOnMapped_inquiryBehindFilter (server mapped : Endpoint)
    (alternate : Option Endpoint) : (inquiryBehindFilter server mapped alternate).RestsOnMapped := by
  cases alternate with
  | none => trivial
  | some alternate =>
    intro other _
    cases other with
    | none => trivial
    | some other =>
      dsimp only
      by_cases hother : other.mapped ≠ some mapped
      · rw [if_pos hother]
        trivial
      · rw [if_neg hother]
        intro otherPort _
        trivial

/-- The inquiry about the kind of translation fails only where there is no mapped address. -/
theorem NatType.restsOnMapped_inquiry (server : Endpoint) (localAddress : String) :
    (inquiry server localAddress).RestsOnMapped := by
  intro first hfirst
  cases first with
  | none => trivial
  | some first =>
    obtain ⟨mapped, hmapped⟩ := Option.isSome_iff_exists.1 (hfirst first rfl)
    simp only [hmapped]
    intro elsewhere _
    dsimp only
    by_cases hdirect : mapped.host = localAddress
    · rw [if_pos hdirect]
      trivial
    · rw [if_neg hdirect]
      by_cases helsewhere : elsewhere.isSome
      · rw [if_pos helsewhere]
        trivial
      · rw [if_neg helsewhere]
        exact restsOnMapped_inquiryBehindFilter server mapped first.changed

/-- An inquiry that rests on mapped addresses ends with a kind as long as its tests end with mapped
answers. -/
theorem Inquiry.endsWith_make {h : Host} {request : NatType.Requester SocketM}
    {fault : Fault → Prop}
    (hrequest : ∀ server changeIp changePort,
      (request server changeIp changePort).EndsWith h IsMapped fault)
    {q : Inquiry} (hq : q.RestsOnMapped) :
    (q.make request : SocketM NatType).EndsWith h (fun _ => True) fault := by
  induction q with
  | concluded kind => exact SocketM.endsWith_pure trivial
  | failed f => exact hq.elim
  | test t next ih =>
    have htest := hrequest t.server t.changeIp t.changePort
    exact htest.bind fun answer hanswer => ih answer (hq answer hanswer)

namespace NatType

/-! ## Asking one server -/

/-- Whether a fault is one of the operating system or of a value. -/
abbrev OfServer (f : Fault) : Prop := isOfServer f = true

/-- Whether the calls of the operating system that asking a server takes fail on a host only by
these faults, among them the call that sets what is left of the timeout as the limit of a socket. -/
structure Network.FailsBy (network : Network) (h : Host) (timeout : Binary64)
    (fault : Fault → Prop) : Prop where
  lookUp : ∀ name port, (network.lookUp name port).FailsBy h fault
  localAddress : ∀ endpoint, (network.localAddress endpoint).FailsBy h fault
  openSocket : network.openSocket.FailsBy h fault
  ready : ∀ server changeIp changePort,
    (network.ready server changeIp changePort).FailsBy h fault
  setTimeout : h.WaitsBut timeout fault

theorem Network.FailsBy.mono {network : Network} {h : Host} {timeout : Binary64}
    {fault fault' : Fault → Prop} (hnetwork : network.FailsBy h timeout fault)
    (hfault : ∀ f, fault f → fault' f) : network.FailsBy h timeout fault' where
  lookUp name port := (hnetwork.lookUp name port).mono (fun _ => id) hfault
  localAddress endpoint := (hnetwork.localAddress endpoint).mono (fun _ => id) hfault
  openSocket := hnetwork.openSocket.mono (fun _ => id) hfault
  ready server changeIp changePort :=
    (hnetwork.ready server changeIp changePort).mono (fun _ => id) hfault
  setTimeout f hf := hfault f (hnetwork.setTimeout f hf)

/-- As the facts of a host answer them, calls fail where there is no such name or no way out, and
where the sockets of the host refuse what is left of the timeout. -/
theorem Network.failsBy_ofHost {h : Host} {timeout : Binary64} {fault : Fault → Prop}
    (hunknown : fault .unavailable) (hwaits : h.WaitsBut timeout fault) :
    Network.ofHost.FailsBy h timeout fault where
  lookUp name port := by
    refine HostM.failsBy_read.bind fun h _ => ?_
    dsimp only
    split
    · exact HostM.endsWith_throw hunknown
    · exact HostM.endsWith_pure trivial
  localAddress _ := by
    refine HostM.failsBy_read.bind fun h _ => ?_
    split
    · exact HostM.endsWith_pure trivial
    · exact HostM.endsWith_throw hunknown
  openSocket := HostM.endsWith_pure trivial
  ready _ _ _ := HostM.endsWith_pure trivial
  setTimeout := hwaits

section

variable {network : Network} {h : Host} {timeout : Binary64} {fault : Fault → Prop}
  (hnetwork : network.FailsBy h timeout fault)

include hnetwork

theorem failsBy_resolve (hmalformed : fault .malformed) (server : String) :
    (resolve server network).FailsBy h fault := by
  rw [resolve]
  dsimp only
  cases Numeral.readInt? (splitServer server).2.toList with
  | none => exact HostM.endsWith_throw hmalformed
  | some n => exact hnetwork.lookUp _ n

theorem endsWith_request (server : Endpoint) (changeIp changePort : Bool) :
    (network.request { timeout } server changeIp changePort).EndsWith h IsMapped fault := by
  have hready := SocketM.endsWith_lift (hnetwork.ready server changeIp changePort)
  exact hready.bind fun _ _ =>
    Client.endsWith_request { timeout } hnetwork.setTimeout server changeIp changePort

/-- Asking a server fails only by the faults of the calls that it takes, and by that of a port that
is no number. -/
theorem failsBy_ofServer (hmalformed : fault .malformed) (server : String) :
    (ofServer timeout server network).FailsBy h fault := by
  rw [ofServer]
  refine (failsBy_resolve hnetwork hmalformed server).bind fun endpoint _ => ?_
  refine (hnetwork.localAddress endpoint).bind fun ip _ => ?_
  refine hnetwork.openSocket.bind fun _ _ => ?_
  rw [classify_eq_make]
  have hinquiry : SocketM.EndsWith ((inquiry endpoint ip).make (network.request { timeout })) h
      (fun _ => True) fault :=
    Inquiry.endsWith_make (endsWith_request hnetwork) (restsOnMapped_inquiry endpoint ip)
  exact hinquiry.onQueue []

end

/-! ## Asking servers in turn -/

/-- The kinds that the usable ones among these servers have shown. -/
def shown (outcomes : List (Except Fault NatType)) : List NatType :=
  outcomes.filterMap Except.toOption

/-- Whether a search ends so by these outcomes of the servers that it asks, of which there are
`total`, after it was shown some that are not definite. -/
inductive Finds (total : Nat) (results : List NatType) :
    List (Except Fault NatType) → Except Fault NatType → Prop where
  /-- The last server asked is the first one that shows a definite kind. -/
  | definite {earlier : List (Except Fault NatType)} {kind : NatType} :
      (∀ k ∈ shown earlier, ¬k.isDefinite) → kind.isDefinite →
      Finds total results (earlier ++ [.ok kind]) (.ok kind)
  /-- All servers are asked. -/
  | exhausted {asked : List (Except Fault NatType)} :
      asked.length = total → (∀ k ∈ shown asked, ¬k.isDefinite) →
      Finds total results asked (.ok (verdict (results ++ shown asked)))
  /-- The last server asked fails in a way that is not its own alone. -/
  | stopped {earlier : List (Except Fault NatType)} {f : Fault} :
      ¬OfServer f → Finds total results (earlier ++ [.error f]) (.error f)

section

variable {total : Nat} {results : List NatType} {asked : List (Except Fault NatType)}
  {outcome : Except Fault NatType}

theorem Finds.after_unusable (f : Fault) (hfinds : Finds total results asked outcome) :
    Finds (total + 1) results (.error f :: asked) outcome := by
  cases hfinds with
  | definite hearlier hkind =>
    rw [← List.cons_append]
    exact .definite hearlier hkind
  | exhausted htotal hshown =>
    have hsame : shown (.error f :: asked) = shown asked := rfl
    rw [← hsame]
    exact .exhausted (congrArg (· + 1) htotal) hshown
  | stopped hf' =>
    rw [← List.cons_append]
    exact .stopped hf'

theorem Finds.after_indefinite {result : NatType} (hresult : ¬result.isDefinite)
    (hfinds : Finds total (results ++ [result]) asked outcome) :
    Finds (total + 1) results (.ok result :: asked) outcome := by
  have hcons : ∀ {before : List (Except Fault NatType)}, (∀ k ∈ shown before, ¬k.isDefinite) →
      ∀ k ∈ shown (.ok result :: before), ¬k.isDefinite := by
    intro before hbefore k hk
    rcases List.mem_cons.1 hk with rfl | hk
    · exact hresult
    · exact hbefore k hk
  cases hfinds with
  | definite hearlier hkind =>
    rw [← List.cons_append]
    exact .definite (hcons hearlier) hkind
  | exhausted htotal hshown =>
    have hverdict : results ++ [result] ++ shown asked = results ++ shown (.ok result :: asked) :=
      List.append_assoc results [result] (shown asked)
    rw [hverdict]
    exact .exhausted (congrArg (· + 1) htotal) (hcons hshown)
  | stopped hf =>
    rw [← List.cons_append]
    exact .stopped hf

end

section

variable {network : Network} {timeout : Binary64} {h : Host} {j j' : Journal} {server : String}

theorem runFrom_ofServers_of_unusable (results : List NatType) (servers : List String) {f : Fault}
    (hasked : (ofServer timeout server network).runFrom h j = (.error f, j')) (hf : OfServer f) :
    (ofServers timeout network results (server :: servers)).runFrom h j =
      (ofServers timeout network results servers).runFrom h j' := by
  rw [ofServers, HostM.runFrom_bind_of_ok h j (HostM.runFrom_attempt h j _), hasked]
  exact congrArg (HostM.runFrom · h j') (if_pos hf)

theorem runFrom_ofServers_of_definite (results : List NatType) (servers : List String)
    {kind : NatType} (hasked : (ofServer timeout server network).runFrom h j = (.ok kind, j'))
    (hkind : kind.isDefinite) :
    (ofServers timeout network results (server :: servers)).runFrom h j = (.ok kind, j') := by
  rw [ofServers, HostM.runFrom_bind_of_ok h j (HostM.runFrom_attempt h j _), hasked]
  exact congrArg (HostM.runFrom · h j') (if_pos hkind)

theorem runFrom_ofServers_of_indefinite (results : List NatType) (servers : List String)
    {kind : NatType} (hasked : (ofServer timeout server network).runFrom h j = (.ok kind, j'))
    (hkind : ¬kind.isDefinite) :
    (ofServers timeout network results (server :: servers)).runFrom h j =
      (ofServers timeout network (results ++ [kind]) servers).runFrom h j' := by
  rw [ofServers, HostM.runFrom_bind_of_ok h j (HostM.runFrom_attempt h j _), hasked]
  exact congrArg (HostM.runFrom · h j') (if_neg hkind)

end

theorem runFrom_ofServers_of_stopped {network : Network} {timeout : Binary64} {h : Host}
    {j j' : Journal} {server : String} (results : List NatType) (servers : List String) {f : Fault}
    (hasked : (ofServer timeout server network).runFrom h j = (.error f, j')) (hf : ¬OfServer f) :
    (ofServers timeout network results (server :: servers)).runFrom h j = (.error f, j') := by
  rw [ofServers, HostM.runFrom_bind_of_ok h j (HostM.runFrom_attempt h j _), hasked]
  exact congrArg (HostM.runFrom · h j') (if_neg hf)

/-- A search asks some of the first servers, ends by what they show, and does nothing else. -/
theorem exists_finds (network : Network) (timeout : Binary64) (servers : List String)
    (results : List NatType) (h : Host) (j : Journal) :
    ∃ outcome, ∃ n ≤ servers.length,
      let asked := HostM.outcomes h
        ((servers.take n).map fun server => ofServer timeout server network) j
      (ofServers timeout network results servers).runFrom h j = (outcome, asked.2) ∧
        Finds servers.length results asked.1 outcome := by
  induction servers generalizing results j with
  | nil =>
    refine ⟨.ok (verdict results), 0, Nat.le_refl 0, rfl, ?_⟩
    have hnone : Finds 0 results [] (.ok (verdict (results ++ shown []))) := .exhausted rfl nofun
    rwa [shown, List.filterMap_nil, List.append_nil] at hnone
  | cons server servers ih =>
    cases hasked : (ofServer timeout server network).runFrom h j with
    | mk r j' =>
    have houtcomes : ∀ n, HostM.outcomes h
        (((server :: servers).take (n + 1)).map fun server => ofServer timeout server network) j =
          let later := HostM.outcomes h
            ((servers.take n).map fun server => ofServer timeout server network) j'
          (r :: later.1, later.2) := by
      intro n
      rw [List.take_succ_cons, List.map_cons, HostM.outcomes, hasked]
    cases r with
    | error f =>
      by_cases hf : OfServer f
      · obtain ⟨outcome, n, hn, hrun, hfinds⟩ := ih results j'
        refine ⟨outcome, n + 1, Nat.succ_le_succ hn, ?_⟩
        rw [houtcomes, runFrom_ofServers_of_unusable results servers hasked hf]
        exact ⟨hrun, hfinds.after_unusable f⟩
      · have hfinds : Finds (servers.length + 1) results ([] ++ [.error f]) (.error f) :=
          .stopped hf
        refine ⟨.error f, 1, Nat.le_add_left 1 _, ?_⟩
        rw [houtcomes, runFrom_ofServers_of_stopped results servers hasked hf]
        exact ⟨rfl, hfinds⟩
    | ok result =>
      by_cases hdefinite : result.isDefinite
      · have hfinds : Finds (servers.length + 1) results ([] ++ [.ok result]) (.ok result) :=
          .definite nofun hdefinite
        refine ⟨.ok result, 1, Nat.le_add_left 1 _, ?_⟩
        rw [houtcomes, runFrom_ofServers_of_definite results servers hasked hdefinite]
        exact ⟨rfl, hfinds⟩
      · obtain ⟨outcome, n, hn, hrun, hfinds⟩ := ih (results ++ [result]) j'
        refine ⟨outcome, n + 1, Nat.succ_le_succ hn, ?_⟩
        rw [houtcomes, runFrom_ofServers_of_indefinite results servers hasked hdefinite]
        exact ⟨hrun, hfinds.after_indefinite hdefinite⟩

section

variable {network : Network} {h : Host} {timeout : Binary64}

/-- What the servers fail by is what the calls fail by that asking them takes. -/
theorem fault_of_mem_outcomes {fault : Fault → Prop} (hnetwork : network.FailsBy h timeout fault)
    (hmalformed : fault .malformed) {servers : List String} {j : Journal} {f : Fault}
    (hf : .error f ∈
      (HostM.outcomes h (servers.map fun server => ofServer timeout server network) j).1) :
    fault f := by
  obtain ⟨step, hstep, j', hfails⟩ := HostM.exists_of_mem_outcomes h j hf
  obtain ⟨server, -, rfl⟩ := List.mem_map.1 hstep
  exact (failsBy_ofServer hnetwork hmalformed server).fault_of_error j' f hfails

/-- A search fails by no fault but those of the calls that asking a server takes, and of these only
by such as are neither of the operating system nor of a value. -/
theorem failsBy_detect {fault : Fault → Prop} (hnetwork : network.FailsBy h timeout fault)
    (servers : List String) :
    (detect timeout servers network).FailsBy h fun f => fault f ∧ ¬OfServer f where
  value_of_ok _ _ _ := trivial
  fault_of_error j f herror := by
    obtain ⟨outcome, n, -, hrun, hfinds⟩ := exists_finds network timeout servers [] h j
    obtain rfl : outcome = .error f := (congrArg Prod.fst hrun).symm.trans herror
    generalize hasked : (HostM.outcomes h
      ((servers.take n).map fun server => ofServer timeout server network) j).1 = asked at hfinds
    cases hfinds with
    | stopped hf =>
      have hmem : .error f ∈ (HostM.outcomes h
          ((servers.take n).map fun server => ofServer timeout server network) j).1 := by
        rw [hasked]
        exact List.mem_append_right _ (List.mem_singleton_self _)
      have hboth : network.FailsBy h timeout fun f => fault f ∨ OfServer f :=
        hnetwork.mono fun _ => Or.inl
      have heither := fault_of_mem_outcomes hboth (.inr rfl) hmem
      exact ⟨heither.resolve_right hf, hf⟩

end

end NatType

end HostReport
