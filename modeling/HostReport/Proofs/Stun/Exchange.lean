import HostReport.Proofs.Stun.Waiting
import HostReport.Proofs.Stun.Walk
import HostReport.Stun.Client

/-!
# What answers a request

A request is a number of attempts from one socket, each with an id of its own, and the next is made
only if the time of the one before is over.  What reaches the socket is arbitrary: answers to other
requests, late ones, duplicates, and bytes of any kind stand in the queue before, between and behind
the answers to the attempt.  A request is answered by the first datagram that an attempt hears and
accepts under its own id, and by nothing else; it fails only where the socket refuses the time that
an attempt has left.
-/

namespace HostReport.Stun

/-- A test: a request to an address, which may be meant to be answered from elsewhere. -/
structure Test where
  server : Endpoint
  changeIp : Bool
  changePort : Bool
  deriving DecidableEq

/-- The packet of a test under an id. -/
def Test.packet (t : Test) (id : TransactionId) : Bytes :=
  (encodeRequest id.bytes t.changeIp t.changePort).toOption.getD []

/-- An id has the length that a packet needs. -/
theorem Test.encodeRequest_eq (t : Test) (id : TransactionId) :
    encodeRequest id.bytes t.changeIp t.changePort = .ok (t.packet id) := by
  have hlength : ¬id.bytes.length ≠ 12 := not_not_intro id.length_bytes
  rw [packet, encodeRequest, if_neg hlength]
  rfl

/-! ## Sending -/

/-- What follows a packet sent to a server. -/
def nextRound (h : Host) (j : Journal) (server : Endpoint) (packet : Bytes) : Option Round :=
  let key := roundKey server packet
  ((Host.find h.stun key).getD [])[j.roundsTaken.count key]?

/-- Whether the socket takes a packet. -/
def isTaken : Option Round → Bool
  | some .refused => false
  | _ => true

/-- What joins the queue behind a packet with this id. -/
def joining (id : Bytes) : Option Round → List Arrival
  | some (.arrivals events) => events.map (answering id)
  | _ => []

/-- The state after an id is drawn. -/
def drawn (s : SocketState) : SocketState :=
  { s with journal := { s.journal with transactions := s.journal.transactions + 1 } }

/-- The state after a packet with this id is sent, or refused. -/
def posted (h : Host) (server : Endpoint) (id packet : Bytes) (s : SocketState) : SocketState where
  journal := { s.journal with
    wire := s.journal.wire ++ [.sent server.host server.port packet]
    roundsTaken := s.journal.roundsTaken ++ [roundKey server packet] }
  queue := s.queue ++ joining id (nextRound h s.journal server packet)

section

variable (h : Host) (s : SocketState)

theorem gives_newTransaction :
    (liftM newTransaction : SocketM TransactionId).Gives h s
      (h.transactionId (s.journal.transactions + 1)) (drawn s) := rfl

theorem gives_note (a : WireAction) :
    (liftM (Socket.note a) : SocketM Unit).Gives h s ()
      { s with journal := { s.journal with wire := s.journal.wire ++ [a] } } := rfl

theorem gives_getModifyJournal (f : Journal → Journal) :
    (transmit.getModifyJournal f).Gives h s s.journal { s with journal := f s.journal } := rfl

theorem gives_read : (read : SocketM Host).Gives h s h s := rfl

/-- Sending notes the packet and lets what follows it join the queue. -/
theorem gives_transmit (server : Endpoint) (id packet : Bytes) :
    (transmit server id packet).Gives h s (isTaken (nextRound h s.journal server packet))
      (posted h server id packet s) := by
  rw [transmit]
  refine (gives_note h s _).bind ((gives_getModifyJournal h _ _).bind ((gives_read h _).bind ?_))
  rw [posted]
  cases hround : nextRound h s.journal server packet with
  | none =>
    rw [nextRound] at hround
    simp only [hround, joining, List.append_nil]
    rfl
  | some round =>
    rw [nextRound] at hround
    cases round with
    | refused =>
      simp only [hround, joining, List.append_nil]
      rfl
    | arrivals events =>
      simp only [hround]
      rfl

/-- The state that a wait leaves: the clock has moved on, and the queue is shorter. -/
def waited {α : Type} (h : Host) (accept : Bytes → Option α) (size : Nat) (timeout : Binary64)
    (s : SocketState) : SocketState :=
  let left := (awaitAccepted accept size h.timeRefusal (s.journal.clock + timeout) s.journal.clock
    s.queue).2
  { journal := { s.journal with clock := left.1 }, queue := left.2 }

theorem gives_await {α : Type} (accept : Bytes → Option α) (size : Nat) (timeout : Binary64) :
    (Socket.await accept size timeout).Gives h s
      (awaitAccepted accept size h.timeRefusal (s.journal.clock + timeout) s.journal.clock
        s.queue).1
      (waited h accept size timeout s) := rfl

end

theorem decodeResponse_of_accepted {id d : Bytes} {r : Response}
    (haccepted : accepted? id d = some r) : decodeResponse d (some id) = .ok r := by
  rw [accepted?] at haccepted
  cases hdecoded : decodeResponse d (some id) with
  | error f =>
    rw [hdecoded] at haccepted
    exact nomatch haccepted
  | ok r' =>
    rw [hdecoded] at haccepted
    cases haccepted
    rfl

/-- A datagram is accepted only under the id that it carries. -/
theorem messageId_of_accepted {id d : Bytes} {r : Response} (haccepted : accepted? id d = some r) :
    messageId d = id := by
  rw [accepted?, decodeResponse_eq] at haccepted
  by_cases hforeign : (some id).any (· ≠ messageId d)
  · rw [if_pos hforeign] at haccepted
    split at haccepted
    · exact nomatch haccepted
    · split at haccepted <;> exact nomatch haccepted
  · have hown : id = messageId d := by simpa using hforeign
    exact hown.symm

/-! ## Attempts -/

/-- An attempt: the id drawn for it, whether its packet is sent, what then reaches the socket before
the time of the attempt is over, and whether the socket refuses the time that is left behind that.
-/
structure Attempt where
  id : TransactionId
  isSent : Bool
  heard : List Bytes
  isDisturbed : Bool
  refusal : Option Fault
  /-- The state that the attempt leaves. -/
  after : SocketState

namespace Attempt

variable (a : Attempt)

/-- Whether this datagram answers the attempt: the first one heard that is accepted under its id. -/
def AnsweredBy (d : Bytes) (r : Response) : Prop :=
  a.isSent = true ∧ ∃ before behind, a.heard = before ++ d :: behind ∧
    (∀ d' ∈ before, accepted? a.id.bytes d' = none) ∧ accepted? a.id.bytes d = some r

/-- Whether the time of the attempt is over without an answer and without a failure. -/
def TimesOut : Prop :=
  a.isSent = true ∧ a.isDisturbed = false ∧ a.refusal = none ∧
    ∀ d ∈ a.heard, accepted? a.id.bytes d = none

/-- Whether the socket refuses the time that the attempt has left with this fault, before there is
an answer or an error. -/
def IsRefused (f : Fault) : Prop :=
  a.isSent = true ∧ a.isDisturbed = false ∧ a.refusal = some f ∧
    ∀ d ∈ a.heard, accepted? a.id.bytes d = none

/-- How the attempt ends; a packet that is not sent fails it. -/
def ending : Awaited Response :=
  if a.isSent then
    .ofAnswer a.isDisturbed a.refusal (a.heard.findSome? (accepted? a.id.bytes))
  else .failed

variable {a}

theorem ending_eq_received_iff {r : Response} :
    a.ending = .received r ↔ ∃ d, a.AnsweredBy d r := by
  have hfirst : a.ending = .received r ↔
      a.isSent = true ∧ a.heard.findSome? (accepted? a.id.bytes) = some r := by
    rw [ending]
    cases a.isSent <;> cases a.heard.findSome? (accepted? a.id.bytes) <;>
      cases a.isDisturbed <;> cases a.refusal <;> simp [Awaited.ofAnswer]
  rw [hfirst, List.findSome?_eq_some_iff]
  constructor
  · rintro ⟨hsent, before, d, behind, hheard, haccepted, hrejected⟩
    exact ⟨d, hsent, before, behind, hheard, hrejected, haccepted⟩
  · rintro ⟨d, hsent, before, behind, hheard, hrejected, haccepted⟩
    exact ⟨hsent, before, d, behind, hheard, haccepted, hrejected⟩

theorem ending_eq_expired_iff : a.ending = .expired ↔ a.TimesOut := by
  rw [TimesOut, ← List.findSome?_eq_none_iff, ending]
  cases a.isSent <;> cases a.heard.findSome? (accepted? a.id.bytes) <;>
    cases a.isDisturbed <;> cases a.refusal <;> simp [Awaited.ofAnswer]

theorem ending_eq_refused_iff {f : Fault} : a.ending = .refused f ↔ a.IsRefused f := by
  rw [IsRefused, ← List.findSome?_eq_none_iff, ending]
  cases a.isSent <;> cases a.heard.findSome? (accepted? a.id.bytes) <;>
    cases a.isDisturbed <;> cases a.refusal <;> simp [Awaited.ofAnswer]

end Attempt

/-- The attempt of a test that is made in a state. -/
def Client.attempt (client : Client) (h : Host) (t : Test) (s : SocketState) : Attempt :=
  let id := h.transactionId (s.journal.transactions + 1)
  let isSent := isTaken (nextRound h (drawn s).journal t.server (t.packet id))
  let s' := posted h t.server id.bytes (t.packet id) (drawn s)
  let clock := s'.journal.clock
  let deadline := clock + client.timeout
  { id
    isSent
    heard := heard h.timeRefusal receiveSize deadline clock s'.queue
    isDisturbed := isDisturbed h.timeRefusal deadline clock s'.queue
    refusal := lastRefusal h.timeRefusal deadline clock s'.queue
    after := if isSent then waited h (accepted? id.bytes) receiveSize client.timeout s' else s' }

/-- The attempts of a test that are made one after another as long as they time out. -/
def Client.attemptAt (client : Client) (h : Host) (t : Test) (s : SocketState) : Nat → Attempt
  | 0 => client.attempt h t s
  | k + 1 => client.attemptAt h t (client.attempt h t s).after k

section

variable (client : Client) (h : Host) (t : Test) (s : SocketState)

theorem transactions_after_attempt :
    (client.attempt h t s).after.journal.transactions = s.journal.transactions + 1 := by
  rw [Client.attempt]
  dsimp only
  split <;> rfl

theorem wire_after_attempt :
    (client.attempt h t s).after.journal.wire =
      s.journal.wire ++ [.sent t.server.host t.server.port
        (t.packet (client.attempt h t s).id)] := by
  rw [Client.attempt]
  dsimp only
  split <;> rfl

/-- Each attempt has the id that is drawn for it. -/
theorem attemptAt_id (k : Nat) :
    (client.attemptAt h t s k).id = h.transactionId (s.journal.transactions + k + 1) := by
  induction k generalizing s with
  | zero => rfl
  | succ k ih =>
    rw [Client.attemptAt, ih, transactions_after_attempt]
    congr 1
    omega

/-- What a client does when a wait has ended and `rest` is left to try. -/
def proceed (rest : SocketM (Option Response)) : Awaited Response → SocketM (Option Response)
  | .received r => pure (some r)
  | .failed => pure none
  | .expired => rest
  | .refused f => throw f

theorem ends_proceed_of_ne_expired (rest : SocketM (Option Response)) {w : Awaited Response}
    (hw : w ≠ .expired) : (proceed rest w).Ends h s w.outcome s := by
  cases w with
  | received r => rfl
  | failed => rfl
  | expired => exact absurd rfl hw
  | refused f => rfl

theorem tries_succ (n : Nat) :
    client.tries t.server t.changeIp t.changePort (n + 1) = (do
      let id ← newTransaction
      let isSent ← transmit t.server id.bytes (t.packet id)
      if isSent then
        let w ← Socket.await (accepted? id.bytes) receiveSize client.timeout
        proceed (client.tries t.server t.changeIp t.changePort n) w
      else return none) := by
  rw [Client.tries]
  refine bind_congr fun id => ?_
  have hpacket := t.encodeRequest_eq id
  obtain ⟨id, hlength⟩ := id
  simp only [hpacket]
  refine bind_congr fun isSent => ?_
  cases isSent with
  | false => rfl
  | true =>
    refine bind_congr fun w => ?_
    cases w <;> rfl

/-- How an attempt ends decides how the request goes on. -/
theorem ends_tries_succ (n : Nat) {outcome : Except Fault (Option Response)} {s' : SocketState}
    (hrest : (proceed (client.tries t.server t.changeIp t.changePort n)
      (client.attempt h t s).ending).Ends h (client.attempt h t s).after outcome s') :
    (client.tries t.server t.changeIp t.changePort (n + 1)).Ends h s outcome s' := by
  rw [tries_succ]
  refine (gives_newTransaction h s).bind_ends ((gives_transmit h _ t.server _ _).bind_ends ?_)
  cases hsent : (client.attempt h t s).isSent with
  | false =>
    have hrefused := Bool.eq_false_iff.1 hsent
    have hending : (client.attempt h t s).ending = _ := if_neg hrefused
    have hafter : (client.attempt h t s).after = _ := if_neg hrefused
    rw [hending, hafter] at hrest
    exact (if_neg hrefused).symm ▸ hrest
  | true =>
    have hending : (client.attempt h t s).ending = _ := if_pos hsent
    have hafter : (client.attempt h t s).after = _ := if_pos hsent
    rw [hending, hafter] at hrest
    refine (if_pos hsent).symm ▸ (gives_await h _ _ _ _).bind_ends ?_
    rw [awaitAccepted_fst]
    exact hrest

/-- That the attempts before one have timed out is that the first has, and then those behind it. -/
theorem forall_timesOut_succ_iff (k : Nat) :
    (∀ i < k + 1, (client.attemptAt h t s i).TimesOut) ↔
      (client.attempt h t s).ending = .expired ∧
        ∀ i < k, (client.attemptAt h t (client.attempt h t s).after i).TimesOut := by
  rw [Nat.forall_lt_succ_left, Attempt.ending_eq_expired_iff]
  rfl

/-- Whether one of the first attempts of a test is reached, all before it having timed out, and is
such. -/
def Client.ReachesWithin (n : Nat) (Is : Attempt → Prop) : Prop :=
  ∃ k < n, (∀ i < k, (client.attemptAt h t s i).TimesOut) ∧ Is (client.attemptAt h t s k)

theorem reachesWithin_succ_iff (n : Nat) (Is : Attempt → Prop) :
    client.ReachesWithin h t s (n + 1) Is ↔
      Is (client.attempt h t s) ∨
      ((client.attempt h t s).ending = .expired ∧
        client.ReachesWithin h t (client.attempt h t s).after n Is) := by
  constructor
  · rintro ⟨_ | k, hk, hearlier, hanswered⟩
    · exact .inl hanswered
    · obtain ⟨hexpired, hearlier⟩ := (forall_timesOut_succ_iff client h t s k).1 hearlier
      exact .inr ⟨hexpired, k, Nat.lt_of_succ_lt_succ hk, hearlier, hanswered⟩
  · rintro (hanswered | ⟨hexpired, k, hk, hearlier, hanswered⟩)
    · exact ⟨0, n.succ_pos, fun i hi => absurd hi i.not_lt_zero, hanswered⟩
    · have hreached := (forall_timesOut_succ_iff client h t s k).2 ⟨hexpired, hearlier⟩
      exact ⟨k + 1, Nat.succ_lt_succ hk, hreached, hanswered⟩

/-- Whether one of the first attempts of a test is reached, all before it having timed out, and is
answered with this response. -/
def Client.AnsweredWithin (n : Nat) (r : Response) : Prop :=
  client.ReachesWithin h t s n fun a => ∃ d, a.AnsweredBy d r

/-- Whether one of the first attempts of a test is reached, all before it having timed out, and the
socket refuses the time that it has left with this fault. -/
def Client.RefusedWithin (n : Nat) (f : Fault) : Prop :=
  client.ReachesWithin h t s n fun a => a.IsRefused f

/-- How the first attempts of a test go: what they end with, how many are made, and what is sent. -/
structure Client.Course (n : Nat) (outcome : Except Fault (Option Response)) (s' : SocketState)
    (sends : Nat) : Prop where
  ends : (client.tries t.server t.changeIp t.changePort n).Ends h s outcome s'
  answer_iff : ∀ r, outcome = .ok (some r) ↔ client.AnsweredWithin h t s n r
  fault_iff : ∀ f, outcome = .error f ↔ client.RefusedWithin h t s n f
  sends_le : sends ≤ n
  /-- An attempt is made exactly if all before it have timed out. -/
  lt_sends_iff : ∀ k < n, k < sends ↔ ∀ i < k, (client.attemptAt h t s i).TimesOut
  wire : s'.journal.wire = s.journal.wire ++ (List.range sends).map fun i =>
    .sent t.server.host t.server.port (t.packet (client.attemptAt h t s i).id)
  transactions : s'.journal.transactions = s.journal.transactions + sends

variable {client h t s}

/-- An attempt that does not time out is the last one. -/
theorem course_of_not_timesOut {n : Nat} (hending : (client.attempt h t s).ending ≠ .expired) :
    client.Course h t s (n + 1) (client.attempt h t s).ending.outcome
      (client.attempt h t s).after 1 where
  ends := ends_tries_succ client h t s n (ends_proceed_of_ne_expired h _ _ hending)
  answer_iff r := by
    rw [Awaited.outcome_eq_some_iff, Client.AnsweredWithin, reachesWithin_succ_iff,
      Attempt.ending_eq_received_iff]
    exact (or_iff_left fun hlater => hending hlater.1).symm
  fault_iff f := by
    rw [Awaited.outcome_eq_error_iff, Client.RefusedWithin, reachesWithin_succ_iff,
      Attempt.ending_eq_refused_iff]
    exact (or_iff_left fun hlater => hending hlater.1).symm
  sends_le := Nat.le_add_left 1 n
  lt_sends_iff k _ := by
    cases k with
    | zero => exact iff_of_true Nat.one_pos fun i hi => absurd hi i.not_lt_zero
    | succ k =>
      refine iff_of_false (by omega) fun hearlier => ?_
      exact hending ((forall_timesOut_succ_iff client h t s k).1 hearlier).1
  wire := wire_after_attempt client h t s
  transactions := transactions_after_attempt client h t s

/-- Behind an attempt that times out the others go as they do from the state that it leaves. -/
theorem course_of_timesOut {n : Nat} {outcome : Except Fault (Option Response)} {s' : SocketState}
    {sends : Nat} (hending : (client.attempt h t s).ending = .expired)
    (hrest : client.Course h t (client.attempt h t s).after n outcome s' sends) :
    client.Course h t s (n + 1) outcome s' (sends + 1) where
  ends := ends_tries_succ client h t s n (hending ▸ hrest.ends)
  answer_iff r := by
    rw [hrest.answer_iff, Client.AnsweredWithin, Client.AnsweredWithin, reachesWithin_succ_iff,
      ← Attempt.ending_eq_received_iff, hending]
    simp
  fault_iff f := by
    rw [hrest.fault_iff, Client.RefusedWithin, Client.RefusedWithin, reachesWithin_succ_iff,
      ← Attempt.ending_eq_refused_iff, hending]
    simp
  sends_le := Nat.succ_le_succ hrest.sends_le
  lt_sends_iff k hk := by
    cases k with
    | zero => exact iff_of_true sends.succ_pos fun i hi => absurd hi i.not_lt_zero
    | succ k =>
      rw [Nat.succ_lt_succ_iff, hrest.lt_sends_iff k (Nat.lt_of_succ_lt_succ hk),
        forall_timesOut_succ_iff]
      exact (and_iff_right hending).symm
  wire := by
    rw [hrest.wire, wire_after_attempt, List.append_assoc, List.range_succ_eq_map, List.map_cons,
      List.map_map]
    rfl
  transactions := by
    rw [hrest.transactions, transactions_after_attempt]
    omega

/-- Every request takes some course, whatever reaches the socket. -/
theorem exists_course (client : Client) (h : Host) (t : Test) (s : SocketState) (n : Nat) :
    ∃ outcome s' sends, client.Course h t s n outcome s' sends := by
  induction n generalizing s with
  | zero =>
    exact ⟨.ok none, s, 0,
      { ends := rfl
        answer_iff := fun r => by simp [Client.AnsweredWithin, Client.ReachesWithin]
        fault_iff := fun f => by simp [Client.RefusedWithin, Client.ReachesWithin]
        sends_le := Nat.le_refl 0
        lt_sends_iff := fun k hk => absurd hk k.not_lt_zero
        wire := (List.append_nil _).symm
        transactions := rfl }⟩
  | succ n ih =>
    by_cases hending : (client.attempt h t s).ending = .expired
    · obtain ⟨outcome, s', sends, hrest⟩ := ih (client.attempt h t s).after
      exact ⟨outcome, s', sends + 1, course_of_timesOut hending hrest⟩
    · exact ⟨_, _, 1, course_of_not_timesOut hending⟩

theorem refusesLeftOf_of_attemptAt {k : Nat} {f : Fault}
    (hrefusal : (client.attemptAt h t s k).refusal = some f) :
    h.RefusesLeftOf client.timeout f := by
  induction k generalizing s with
  | zero => exact exists_of_lastRefusal (Binary64.not_lt_self _) hrefusal
  | succ k ih => exact ih hrefusal

/-- A request that fails does so with a fault by which the socket refuses what is left of the
timeout. -/
theorem Client.Course.refusesLeftOf {n : Nat} {outcome : Except Fault (Option Response)}
    {s' : SocketState} {sends : Nat} (hcourse : client.Course h t s n outcome s' sends) {f : Fault}
    (hf : outcome = .error f) : h.RefusesLeftOf client.timeout f := by
  obtain ⟨k, -, -, -, -, hrefusal, -⟩ := (hcourse.fault_iff f).1 hf
  exact refusesLeftOf_of_attemptAt hrefusal

end

end HostReport.Stun
