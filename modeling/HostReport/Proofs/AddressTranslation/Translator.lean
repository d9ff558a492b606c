import HostReport.Proofs.AddressTranslation.Inquiry

/-!
# The kind that a translator shows

A translator maps the host's address, to an address that may depend on where a packet goes, and lets
a packet in by what the host has sent from the mapped address so far.  The tests leave traces of
their own in it: after the test of the alternate address the filter is open for answers from there.
The last test is still told apart, since its answer comes from an endpoint that is contacted in no
test and shares its address with one and its port with the other.
-/

namespace HostReport

open Stun

/-! ## Translators -/

/-- Which packets a translator lets in. -/
inductive Filtering where
  | endpointIndependent
  | addressDependent
  | addressAndPortDependent
  deriving DecidableEq, Repr

/-- A translator: the mapped address for each destination, and which packets it lets in. -/
structure Translator where
  mapping : Endpoint → Endpoint
  filtering : Filtering

/-- Whether a filter lets packets in from a source once this destination has been contacted. -/
def Filtering.isOpenedBy (f : Filtering) (source contacted : Endpoint) : Bool :=
  match f with
  | endpointIndependent => true
  | addressDependent => contacted.host = source.host
  | addressAndPortDependent => contacted = source

/-- Where the answer to a test comes from, for a server with this alternate address. -/
def Stun.Test.origin (t : Test) (alternate : Endpoint) : Endpoint where
  host := if t.changeIp then alternate.host else t.server.host
  port := if t.changePort then alternate.port else t.server.port

namespace Translator

variable (translator : Translator) (server alternate : Endpoint)

/-- Whether a packet from a source to a mapped address is let in, after these destinations were
contacted. -/
def letsIn (contacted : List Endpoint) (mapped source : Endpoint) : Bool :=
  translator.filtering = .endpointIndependent ||
    contacted.any fun d =>
      translator.mapping d = mapped && translator.filtering.isOpenedBy source d

/-- What is learned from a test after these destinations were contacted, its own among them. -/
def answer (contacted : List Endpoint) (t : Test) : Option Response :=
  let mapped := translator.mapping t.server
  if translator.letsIn contacted mapped (t.origin alternate) then
    some { mapped := some mapped, changed := some alternate }
  else none

/-- Makes the tests through the translator, and remembers the destinations contacted. -/
def request : NatType.Requester (ExceptT Fault (StateM (List Endpoint))) :=
  fun server changeIp changePort => do
    modify (server :: ·)
    return translator.answer alternate (← get) ⟨server, changeIp, changePort⟩

/-- The kind of a translator, for a host behind it that finds itself at this address. -/
def kind (localAddress : String) : NatType :=
  let mapped := translator.mapping server
  if mapped.host = localAddress then
    match translator.filtering with
    | .endpointIndependent => .openInternet
    | .addressDependent | .addressAndPortDependent => .symmetricFirewall
  else
    match translator.filtering with
    | .endpointIndependent => .fullCone
    | .addressDependent =>
      if translator.mapping alternate = mapped then .restrictedCone else .symmetric
    | .addressAndPortDependent =>
      if translator.mapping alternate = mapped then .portRestrictedCone else .symmetric

end Translator

/-! ## Inquiries through a translator -/

namespace Translator

variable {translator : Translator} {server alternate : Endpoint} {contacted : List Endpoint}

/-- The kind that an inquiry through a translator ends with, after these destinations were
contacted. -/
def inquire (translator : Translator) (alternate : Endpoint) (q : Inquiry)
    (contacted : List Endpoint) : Except Fault NatType :=
  ((q.make (translator.request alternate)).run.run contacted).1

theorem inquire_concluded (k : NatType) :
    translator.inquire alternate (.concluded k) contacted = .ok k := rfl

/-- A test contacts its destination and goes on with what is learned then. -/
theorem inquire_test (t : Test) (next : Option Response → Inquiry) :
    translator.inquire alternate (.test t next) contacted =
      translator.inquire alternate (next (translator.answer alternate (t.server :: contacted) t))
        (t.server :: contacted) := rfl

/-- A filter that depends on endpoints lets in exactly what it is open for. -/
theorem letsIn_iff (hfilter : translator.filtering ≠ .endpointIndependent)
    (mapped source : Endpoint) :
    translator.letsIn contacted mapped source = true ↔
      ∃ d ∈ contacted, translator.mapping d = mapped ∧
        translator.filtering.isOpenedBy source d = true := by
  simp [letsIn, hfilter]

/-- The server that a plain test is sent to answers it, whatever the filter. -/
theorem answer_plain (destination : Endpoint) :
    translator.answer alternate (destination :: contacted) ⟨destination, false, false⟩ =
      some { mapped := some (translator.mapping destination), changed := some alternate } := by
  have hopen : translator.filtering.isOpenedBy destination destination = true := by
    cases translator.filtering <;> simp [Filtering.isOpenedBy]
  have hin : translator.letsIn (destination :: contacted) (translator.mapping destination)
      destination = true := by
    simp [letsIn, hopen]
  exact if_pos hin

theorem answer_isSome (t : Test) :
    (translator.answer alternate contacted t).isSome =
      translator.letsIn contacted (translator.mapping t.server) (t.origin alternate) := by
  rw [answer]
  split <;> simp [*]

/-- While only the server has been contacted, an answer from its other address and port is let in
exactly if the filter does not depend on endpoints. -/
theorem answer_elsewhere (hhost : server.host ≠ alternate.host)
    (honly : ∀ d ∈ contacted, d = server) :
    (translator.answer alternate contacted ⟨server, true, true⟩).isSome = true ↔
      translator.filtering = .endpointIndependent := by
  rw [answer_isSome]
  by_cases hfilter : translator.filtering = .endpointIndependent
  · simp [letsIn, hfilter]
  · rw [letsIn_iff hfilter]
    refine ⟨fun ⟨d, hd, _, hopen⟩ => ?_, fun hindependent => absurd hindependent hfilter⟩
    obtain rfl := honly d hd
    have hne : d ≠ alternate := fun heq => hhost (congrArg Endpoint.host heq)
    cases hf : translator.filtering with
    | endpointIndependent => exact absurd hf hfilter
    | addressDependent =>
      rw [hf] at hopen
      exact absurd (of_decide_eq_true hopen) hhost
    | addressAndPortDependent =>
      rw [hf] at hopen
      exact absurd (of_decide_eq_true hopen) hne

/-- While only the server and its alternate address have been contacted, the server among them, an
answer from the server's other port is let in by a filter that looks at addresses alone, and not by
one that looks at ports. -/
theorem answer_otherPort (hhost : server.host ≠ alternate.host)
    (hport : server.port ≠ alternate.port) (hserver : server ∈ contacted)
    (honly : ∀ d ∈ contacted, d = server ∨ d = alternate)
    (hfilter : translator.filtering ≠ .endpointIndependent) :
    (translator.answer alternate contacted ⟨server, false, true⟩).isSome = true ↔
      translator.filtering = .addressDependent := by
  rw [answer_isSome, letsIn_iff hfilter]
  cases hf : translator.filtering with
  | endpointIndependent => exact absurd hf hfilter
  | addressDependent =>
    have hopen : Filtering.addressDependent.isOpenedBy
        (Test.origin ⟨server, false, true⟩ alternate) server = true := decide_eq_true rfl
    exact ⟨fun _ => rfl, fun _ => ⟨server, hserver, rfl, hopen⟩⟩
  | addressAndPortDependent =>
    refine ⟨fun ⟨d, hd, _, hopen⟩ => ?_, nofun⟩
    -- the answer's source shares its port with the alternate address and its host with the server
    have hsource : d = ⟨server.host, alternate.port⟩ := of_decide_eq_true hopen
    rcases honly d hd with rfl | rfl
    · exact absurd (congrArg Endpoint.port hsource) hport
    · exact absurd (congrArg Endpoint.host hsource).symm hhost

/-! ## The kind found -/

/-- The tests after an unanswered one from elsewhere tell a symmetric translator by its two mapped
addresses, and the others by the answer from the server's other port. -/
theorem inquire_behindFilter (hhost : server.host ≠ alternate.host)
    (hport : server.port ≠ alternate.port)
    (honly : ∀ d ∈ contacted, d = server ∨ d = alternate)
    (hfilter : translator.filtering ≠ .endpointIndependent) :
    translator.inquire alternate
        (NatType.inquiryBehindFilter server (translator.mapping server) (some alternate))
        contacted =
      .ok (if translator.mapping alternate = translator.mapping server then
        if translator.filtering = .addressDependent then .restrictedCone else .portRestrictedCone
        else .symmetric) := by
  rw [NatType.inquiryBehindFilter, inquire_test, answer_plain]
  by_cases hmapping : translator.mapping alternate = translator.mapping server
  · have hsame : ¬some (translator.mapping alternate) ≠ some (translator.mapping server) :=
      not_not_intro (congrArg some hmapping)
    have honly' : ∀ d ∈ server :: alternate :: contacted, d = server ∨ d = alternate := by
      simpa using honly
    have hotherPort := answer_otherPort hhost hport List.mem_cons_self honly' hfilter
    rw [if_pos hmapping]
    simp only [if_neg hsame]
    rw [inquire_test, inquire_concluded]
    simp only [hotherPort]
  · have hother : some (translator.mapping alternate) ≠ some (translator.mapping server) :=
      fun heq => hmapping (Option.some.inj heq)
    rw [if_neg hmapping]
    simp only [if_pos hother]
    rw [inquire_concluded]

/-- The tests find the kind of every translator between a host and a server that has a second
address and a second port, whatever the mapping does. -/
theorem classify_eq_kind (translator : Translator) {server alternate : Endpoint}
    (hhost : server.host ≠ alternate.host) (hport : server.port ≠ alternate.port)
    (localAddress : String) :
    ((NatType.classify (translator.request alternate) server localAddress).run.run []).1 =
      .ok (translator.kind server alternate localAddress) := by
  rw [NatType.classify_eq_make]
  change translator.inquire alternate (NatType.inquiry server localAddress) [] = _
  rw [NatType.inquiry, inquire_test, answer_plain]
  dsimp only
  rw [inquire_test]
  have honly : ∀ d ∈ [server, server], d = server := by simp
  have helsewhere : (translator.answer alternate [server, server] ⟨server, true, true⟩).isSome ↔
      translator.filtering = .endpointIndependent := answer_elsewhere hhost honly
  by_cases hdirect : (translator.mapping server).host = localAddress
  · rw [if_pos hdirect, inquire_concluded]
    simp only [helsewhere, kind, if_pos hdirect]
    cases translator.filtering <;> rfl
  · rw [if_neg hdirect]
    simp only [kind, if_neg hdirect]
    cases hf : translator.filtering with
    | endpointIndependent => rw [if_pos (helsewhere.2 hf), inquire_concluded]
    | addressDependent | addressAndPortDependent =>
      have hfilter : translator.filtering ≠ .endpointIndependent := by simp [hf]
      rw [if_neg fun hsome => hfilter (helsewhere.1 hsome),
        inquire_behindFilter hhost hport (by simp) hfilter]
      simp [hf]

/-- A translator with one mapped address that lets in what comes from contacted endpoints. -/
def portRestricting : Translator where
  mapping := fun _ => ⟨"203.0.113.9", 40000⟩
  filtering := .addressAndPortDependent

theorem classify_eq_kind_portRestricting :
    ((NatType.classify (portRestricting.request ⟨"192.0.2.2", 3479⟩) ⟨"192.0.2.1", 3478⟩
        "10.0.0.2").run.run []).1 = .ok .portRestrictedCone := by
  have hhost : (⟨"192.0.2.1", 3478⟩ : Endpoint).host ≠ (⟨"192.0.2.2", 3479⟩ : Endpoint).host := by
    decide
  have hport : (⟨"192.0.2.1", 3478⟩ : Endpoint).port ≠ (⟨"192.0.2.2", 3479⟩ : Endpoint).port := by
    decide
  exact classify_eq_kind portRestricting hhost hport "10.0.0.2"

end Translator

end HostReport
