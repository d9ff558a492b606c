import HostReport.AddressTranslation.Classify
import HostReport.Proofs.Stun.Exchange
import Mathlib.Data.List.Nodup

/-!
# Tests that share a socket

Finding the kind of translation is an inquiry: a tree of tests in which the answers so far choose
the next test.  Made with a client, its tests follow each other on one socket, so a late answer to
one of them is still in the queue while the client waits for the answer to another.  Where the ids
drawn in a run are distinct, no test is decided by such a datagram: the one that decides carries the
id of the attempt that it decides, and of no attempt before it.
-/

namespace HostReport

open Stun

/-! ## Inquiries -/

/-- Tests in which each answer chooses what comes next. -/
inductive Inquiry where
  | concluded (kind : NatType)
  | failed (fault : Fault)
  | test (t : Test) (next : Option Response → Inquiry)

namespace Inquiry

/-- Makes the tests of an inquiry. -/
def make {m : Type → Type} [Monad m] [MonadExceptOf Fault m] (request : NatType.Requester m) :
    Inquiry → m NatType
  | concluded kind => pure kind
  | failed fault => throw fault
  | test t next => request t.server t.changeIp t.changePort >>= fun answer =>
    make request (next answer)

end Inquiry

namespace NatType

/-- The inquiry about a translator that has mapped the host's address, once nothing has come back
from elsewhere. -/
def inquiryBehindFilter (server mapped : Endpoint) : Option Endpoint → Inquiry
  | none => .concluded inconclusive
  | some alternate =>
    .test ⟨alternate, false, false⟩ fun
      | none => .concluded inconclusive
      | some other =>
        if other.mapped ≠ some mapped then .concluded symmetric
        else .test ⟨server, false, true⟩ fun otherPort =>
          .concluded (if otherPort.isSome then restrictedCone else portRestrictedCone)

/-- The inquiry about the kind of translation. -/
def inquiry (server : Endpoint) (localAddress : String) : Inquiry :=
  .test ⟨server, false, false⟩ fun
    | none => .concluded blocked
    | some first =>
      match first.mapped with
      | none => .failed .wrongKind
      | some mapped =>
        .test ⟨server, true, true⟩ fun elsewhere =>
          if mapped.host = localAddress then
            .concluded (if elsewhere.isSome then openInternet else symmetricFirewall)
          else if elsewhere.isSome then .concluded fullCone
          else inquiryBehindFilter server mapped first.changed

/-- Classifying makes the inquiry about the kind of translation. -/
theorem classify_eq_make {m : Type → Type} [Monad m] [MonadExceptOf Fault m]
    (request : Requester m) (server : Endpoint) (localAddress : String) :
    classify request server localAddress = (inquiry server localAddress).make request := by
  rw [classify, inquiry, Inquiry.make]
  refine bind_congr fun first => ?_
  cases first with
  | none => rfl
  | some first =>
    cases hmapped : first.mapped with
    | none =>
      simp only [hmapped]
      rfl
    | some mapped =>
      simp only [hmapped, Inquiry.make]
      refine bind_congr fun elsewhere => ?_
      by_cases hdirect : mapped.host = localAddress
      · rw [if_pos hdirect, if_pos hdirect]
        rfl
      · rw [if_neg hdirect, if_neg hdirect]
        by_cases helsewhere : elsewhere.isSome
        · rw [if_pos helsewhere, if_pos helsewhere]
          rfl
        · rw [if_neg helsewhere, if_neg helsewhere]
          cases first.changed with
          | none => rfl
          | some alternate =>
            refine bind_congr fun other => ?_
            cases other with
            | none => rfl
            | some other =>
              by_cases hother : other.mapped ≠ some mapped
              · refine (if_pos hother).trans ?_
                simp only [if_pos hother]
                rfl
              · refine (if_neg hother).trans ?_
                simp only [if_neg hother]
                rfl

end NatType

/-! ## The exchanges of a run -/

/-- A test that was made, with what came of it and the states before and after it. -/
structure Exchange where
  test : Test
  before : SocketState
  outcome : Except Fault (Option Response)
  after : SocketState

/-- Whether tests that a client makes on a host follow each other from a state to another. -/
inductive Exchanges (client : Client) (h : Host) :
    SocketState → List Exchange → SocketState → Prop where
  | nil (s : SocketState) : Exchanges client h s [] s
  | cons {s s₁ s' : SocketState} {t : Test} {answer : Option Response} {es : List Exchange} :
      (client.request t.server t.changeIp t.changePort).Gives h s answer s₁ →
      Exchanges client h s₁ es s' →
      Exchanges client h s ({ test := t, before := s, outcome := .ok answer, after := s₁ } :: es) s'
  /-- A test that fails is the last one. -/
  | raised {s s' : SocketState} {t : Test} {f : Fault} :
      (client.request t.server t.changeIp t.changePort).Ends h s (.error f) s' →
      Exchanges client h s [{ test := t, before := s, outcome := .error f, after := s' }] s'

/-- How an inquiry ends whose tests are these, if they are the ones that it chooses. -/
def Inquiry.follow : Inquiry → List Exchange → Option (Except Fault NatType)
  | concluded kind, [] => some (.ok kind)
  | failed fault, [] => some (.error fault)
  | test t next, e :: es =>
    if e.test = t then
      match e.outcome with
      | .ok answer => (next answer).follow es
      | .error fault => if es.isEmpty then some (.error fault) else none
    else none
  | _, _ => none

section

variable {client : Client} {h : Host} {s s' : SocketState} {es : List Exchange}

/-- A run of an inquiry is the tests that it chooses, made one after another. -/
theorem exists_exchanges (client : Client) (h : Host) (q : Inquiry) (s : SocketState) :
    ∃ es s' outcome, Exchanges client h s es s' ∧ q.follow es = some outcome ∧
      (q.make client.request : SocketM NatType).Ends h s outcome s' := by
  induction q generalizing s with
  | concluded kind => exact ⟨[], s, .ok kind, .nil s, rfl, rfl⟩
  | failed fault => exact ⟨[], s, .error fault, .nil s, rfl, rfl⟩
  | test t next ih =>
    obtain ⟨outcome, s₁, sends, hcourse⟩ := exists_course client h t s client.attempts
    have hends : (client.request t.server t.changeIp t.changePort).Ends h s outcome s₁ :=
      hcourse.ends
    cases outcome with
    | error f =>
      refine ⟨_, s₁, .error f, .raised hends, ?_, hends.bind_of_error _⟩
      rw [Inquiry.follow, if_pos rfl]
      rfl
    | ok answer =>
      obtain ⟨es, s', outcome, hexchanges, hfollow, hrun⟩ := ih answer s₁
      refine ⟨_, s', outcome, .cons hends hexchanges, ?_, SocketM.Gives.bind_ends hends hrun⟩
      rw [Inquiry.follow, if_pos rfl, ← hfollow]

/-- A request ends by its course. -/
theorem exists_course_of_ends {t : Test} {outcome : Except Fault (Option Response)}
    (hends : (client.request t.server t.changeIp t.changePort).Ends h s outcome s') :
    ∃ s₁ sends, client.Course h t s client.attempts outcome s₁ sends ∧
      s₁.journal = s'.journal := by
  obtain ⟨outcome', s₁, sends, hcourse⟩ := exists_course client h t s client.attempts
  obtain ⟨rfl, hjournal⟩ := hcourse.ends.unique hends
  exact ⟨s₁, sends, hcourse, hjournal⟩

theorem transactions_le_of_ends {t : Test} {outcome : Except Fault (Option Response)}
    (hends : (client.request t.server t.changeIp t.changePort).Ends h s outcome s') :
    s.journal.transactions ≤ s'.journal.transactions := by
  obtain ⟨s₁, sends, hcourse, hjournal⟩ := exists_course_of_ends hends
  have hdrawn := hcourse.transactions
  rw [hjournal] at hdrawn
  omega

theorem Exchanges.transactions_le (hes : Exchanges client h s es s') :
    s.journal.transactions ≤ s'.journal.transactions := by
  induction hes with
  | nil s => exact Nat.le_refl _
  | cons hgives _ ih => exact Nat.le_trans (transactions_le_of_ends hgives) ih
  | raised hends => exact transactions_le_of_ends hends

/-- Each exchange of a run is a request, and draws its ids within the run. -/
theorem Exchanges.ends_of_mem (hes : Exchanges client h s es s') {e : Exchange} (he : e ∈ es) :
    (client.request e.test.server e.test.changeIp e.test.changePort).Ends h e.before e.outcome
        e.after ∧
      s.journal.transactions ≤ e.before.journal.transactions ∧
      e.after.journal.transactions ≤ s'.journal.transactions := by
  induction hes with
  | nil s => exact absurd he List.not_mem_nil
  | cons hgives hrest ih =>
    rcases List.mem_cons.1 he with rfl | he
    · exact ⟨hgives, Nat.le_refl _, hrest.transactions_le⟩
    · obtain ⟨hends, hbefore, hafter⟩ := ih he
      exact ⟨hends, Nat.le_trans (transactions_le_of_ends hgives) hbefore, hafter⟩
  | raised hends =>
    obtain rfl := List.mem_singleton.1 he
    exact ⟨hends, Nat.le_refl _, Nat.le_refl _⟩

end

/-! ## Which datagrams decide -/

/-- The ids that are drawn after the first `earlier` ones, up to the one with the number `last`. -/
def Host.idsDrawn (h : Host) (earlier last : Nat) : List TransactionId :=
  (List.range' (earlier + 1) (last - earlier)).map h.transactionId

theorem Host.transactionId_ne {h : Host} {earlier last m n : Nat}
    (hdistinct : (h.idsDrawn earlier last).Nodup) (hm : earlier < m) (hmn : m < n) (hn : n ≤ last) :
    h.transactionId m ≠ h.transactionId n := by
  intro heq
  have hmem : ∀ k, earlier < k → k ≤ last → k ∈ List.range' (earlier + 1) (last - earlier) := by
    intro k hk hlast
    rw [List.mem_range'_1]
    omega
  have hsame := List.inj_on_of_nodup_map hdistinct (hmem m hm (by omega)) (hmem n (by omega) hn) heq
  omega

theorem TransactionId.bytes_inj {id id' : TransactionId} : id.bytes = id'.bytes ↔ id = id' := by
  cases id
  cases id'
  simp

/-- The answer to a test of a run comes from a datagram that one attempt of this very test hears and
accepts, and that carries no id drawn before in the run. -/
theorem Exchanges.decided {client : Client} {h : Host} {s s' : SocketState} {es : List Exchange}
    (hes : Exchanges client h s es s')
    (hdistinct : (h.idsDrawn s.journal.transactions s'.journal.transactions).Nodup)
    {e : Exchange} (he : e ∈ es) {r : Response} (hr : e.outcome = .ok (some r)) :
    ∃ k < client.attempts, (∀ i < k, (client.attemptAt h e.test e.before i).TimesOut) ∧
      ∃ d, (client.attemptAt h e.test e.before k).AnsweredBy d r ∧
        ∀ m, s.journal.transactions < m → m ≤ e.before.journal.transactions + k →
          messageId d ≠ (h.transactionId m).bytes := by
  obtain ⟨hends, hbefore, hafter⟩ := hes.ends_of_mem he
  obtain ⟨s₁, sends, hcourse, hjournal⟩ := exists_course_of_ends hends
  obtain ⟨k, hk, hearlier, d, hanswered⟩ := (hcourse.answer_iff r).1 hr
  refine ⟨k, hk, hearlier, d, hanswered, fun m hm hmk hcarried => ?_⟩
  obtain ⟨-, _, _, -, -, haccepted⟩ := hanswered
  -- the deciding datagram carries the id of its attempt, which is drawn within the run
  have hown := messageId_of_accepted haccepted
  rw [attemptAt_id] at hown
  have hsent : k < sends := (hcourse.lt_sends_iff k hk).2 hearlier
  have hdrawn := hcourse.transactions
  rw [hjournal] at hdrawn
  have hne := Host.transactionId_ne hdistinct hm (n := e.before.journal.transactions + k + 1)
    (by omega) (by omega)
  exact hne (TransactionId.bytes_inj.1 (hcarried.symm.trans hown))

/-- A request is answered exactly by the first datagram that a reached attempt hears and accepts
under its own id, after at most as many packets as there are attempts, and it fails exactly where
the socket refuses the time that a reached attempt has left; and in a run that finds the kind of
translation, whose ids are distinct, what decides a test carries no id of an earlier test or
attempt. -/
theorem decided_by_own_answers (client : Client) (h : Host) (server : Endpoint)
    (localAddress : String) (s : SocketState)
    (hdistinct : (h.idsDrawn s.journal.transactions
      (SocketM.runFrom (NatType.classify client.request server localAddress) h s).2.transactions
      ).Nodup) :
    (∀ (t : Test) (s₀ : SocketState), ∃ outcome s',
      (client.request t.server t.changeIp t.changePort).Ends h s₀ outcome s' ∧
      (∀ r, outcome = .ok (some r) ↔ client.AnsweredWithin h t s₀ client.attempts r) ∧
      (∀ f, outcome = .error f ↔ client.RefusedWithin h t s₀ client.attempts f) ∧
      ∃ sends ≤ client.attempts, s'.journal.wire = s₀.journal.wire ++
        (List.range sends).map fun i =>
          .sent t.server.host t.server.port (t.packet (client.attemptAt h t s₀ i).id)) ∧
    ∃ es s' outcome, Exchanges client h s es s' ∧
      (NatType.inquiry server localAddress).follow es = some outcome ∧
      SocketM.Ends (NatType.classify client.request server localAddress) h s outcome s' ∧
      ∀ e ∈ es, ∀ r, e.outcome = .ok (some r) →
        ∃ k < client.attempts, (∀ i < k, (client.attemptAt h e.test e.before i).TimesOut) ∧
          ∃ d, (client.attemptAt h e.test e.before k).AnsweredBy d r ∧
            ∀ m, s.journal.transactions < m → m ≤ e.before.journal.transactions + k →
              messageId d ≠ (h.transactionId m).bytes := by
  refine ⟨fun t s₀ => ?_, ?_⟩
  · obtain ⟨outcome, s', sends, hcourse⟩ := exists_course client h t s₀ client.attempts
    exact ⟨outcome, s', hcourse.ends, hcourse.answer_iff, hcourse.fault_iff, sends,
      hcourse.sends_le, hcourse.wire⟩
  · obtain ⟨es, s', outcome, hexchanges, hfollow, hrun⟩ :=
      exists_exchanges client h (NatType.inquiry server localAddress) s
    rw [← NatType.classify_eq_make] at hrun
    have hjournal : (SocketM.runFrom (NatType.classify client.request server localAddress) h s).2 =
        s'.journal := congrArg Prod.snd hrun
    rw [hjournal] at hdistinct
    exact ⟨es, s', outcome, hexchanges, hfollow, hrun,
      fun e he r hr => hexchanges.decided hdistinct he hr⟩

/-- The answer of a server that has seen a host at `198.51.100.7:1000`, which takes over the id of
the request before it. -/
def seenDirectly (delay : Binary64) : Arrival where
  bytes := [1, 1, 0, 12, 33, 18, 164, 66] ++ List.replicate 12 0 ++
    [0, 1, 0, 8, 0, 1, 3, 232, 198, 51, 100, 7]
  delay

/-- A host where the answer to the first attempt arrives during the second. -/
def lateAnswer : Host where
  stun := [("192.0.2.1:3478/0", [.arrivals [seenDirectly 5], .arrivals [seenDirectly 0]])]

/-- What finding the kind of translation gives there. -/
def lateRun : Except Fault (NatType × List Arrival) × Journal :=
  SocketM.runFrom
    (NatType.classify (Client.request { timeout := 3 }) ⟨"192.0.2.1", 3478⟩ "198.51.100.7")
    lateAnswer ⟨{}, []⟩

theorem decided_by_own_answers_lateAnswer :
    (lateAnswer.idsDrawn 0 4).Nodup ∧
      ∃ es s', Exchanges { timeout := 3 } lateAnswer ⟨{}, []⟩ es s' ∧
        (NatType.inquiry ⟨"192.0.2.1", 3478⟩ "198.51.100.7").follow es =
          some (.ok .symmetricFirewall) := by
  have hdrawn : lateRun.2.transactions = 4 := by decide +kernel
  have hkind : (lateRun.1.map Prod.fst).toOption = some .symmetricFirewall := by decide +kernel
  have hdistinct : (lateAnswer.idsDrawn 0 4).Nodup := by decide +kernel
  have hrunDistinct : (lateAnswer.idsDrawn 0 lateRun.2.transactions).Nodup := by
    rw [hdrawn]
    exact hdistinct
  unfold lateRun at hrunDistinct hkind
  obtain ⟨-, es, s', outcome, hexchanges, hfollow, hrun, -⟩ :=
    decided_by_own_answers { timeout := 3 } lateAnswer ⟨"192.0.2.1", 3478⟩ "198.51.100.7" ⟨{}, []⟩
      hrunDistinct
  have houtcome : (outcome.map fun kind => (kind, s'.queue)).map Prod.fst = outcome := by
    cases outcome <;> rfl
  rw [hrun, houtcome] at hkind
  refine ⟨hdistinct, es, s', hexchanges, ?_⟩
  cases outcome with
  | error fault => exact nomatch hkind
  | ok kind =>
    cases hkind
    exact hfollow

end HostReport
