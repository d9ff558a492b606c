import HostReport.AddressTranslation.Detect
import HostReport.Proofs.AddressTranslation.Inquiry
import HostReport.Proofs.Http.Requests

/-!
# The conversation with servers

Finding the kind of translation looks at the clock, at how many transaction ids were drawn and at
which rounds were taken, and at nothing else that a run has left; and it is the only one to look at
these.  So it finds the same wherever it stands among the collectors.  It uses sockets of its own
and makes no request.
-/

namespace HostReport

open Stun

variable {α β : Type} {h : Host}

/-! ## Steps of a conversation -/

namespace HostM

/-- Whether a step is local to the conversation and makes no request. -/
structure Converses (h : Host) (step : HostM α) : Prop where
  isLocal : LocalTo h .nat step
  requestsOver : RequestsOver h [] step

theorem converses_pure (x : α) : Converses h (pure x) := ⟨localTo_pure x, requestsOver_pure x⟩

theorem converses_throw (f : Fault) : Converses h (throw f : HostM α) :=
  ⟨localTo_throw f, requestsOver_throw f⟩

theorem converses_read : Converses h (read : HostM Host) := ⟨localTo_read, requestsOver_read⟩

theorem Converses.bind {step : HostM α} {next : α → HostM β} (hstep : Converses h step)
    (hnext : ∀ x, Converses h (next x)) : Converses h (step >>= next) where
  isLocal := hstep.isLocal.bind fun x _ => (hnext x).isLocal
  requestsOver := hstep.requestsOver.bind fun x _ => (hnext x).requestsOver

theorem Converses.attempt {step : HostM α} (hstep : Converses h step) :
    Converses h (HostM.attempt step) :=
  ⟨hstep.isLocal.attempt, hstep.requestsOver.attempt⟩

end HostM

open HostM

/-! ## Steps that use a socket -/

namespace SocketM

/-- Whether a step converses, whatever the queue holds before it. -/
def IsConversation (h : Host) (step : SocketM α) : Prop :=
  ∀ queue, HostM.Converses h (step.run queue)

theorem isConversation_pure (x : α) : IsConversation h (pure x) :=
  fun _ => converses_pure _

theorem isConversation_throw (f : Fault) : IsConversation h (throw f : SocketM α) :=
  fun _ => converses_throw f

theorem isConversation_lift {step : HostM α} (hstep : Converses h step) :
    IsConversation h (liftM step : SocketM α) :=
  fun _ => hstep.bind fun _ => converses_pure _

theorem IsConversation.bind {step : SocketM α} {next : α → SocketM β}
    (hstep : IsConversation h step) (hnext : ∀ x, IsConversation h (next x)) :
    IsConversation h (step >>= next) := by
  intro queue
  rw [StateT.run_bind]
  exact (hstep queue).bind fun result => hnext result.1 result.2

theorem IsConversation.converses_run' {step : SocketM α} (hstep : IsConversation h step)
    (queue : List Arrival) : Converses h (step.run' queue) := by
  rw [StateT.run', map_eq_pure_bind]
  exact (hstep queue).bind fun _ => converses_pure _

end SocketM

open SocketM

/-! ## Requests -/

theorem converses_newTransaction : Converses h newTransaction := by
  let given : Journal → Except Fault TransactionId :=
    fun v => .ok (h.transactionId (v.transactions + 1))
  let change : Journal → Journal := fun v => { v with transactions := v.transactions + 1 }
  have hresult : ∀ j, (newTransaction.runFrom h j).1 = given (Aspect.nat.view h j) := fun _ => rfl
  have hchange : ∀ j, Aspect.nat.view h (newTransaction.runFrom h j).2 =
      change (Aspect.nat.view h j) := fun _ => rfl
  refine ⟨localTo_of_view hresult hchange fun b hb j => ?_, requestsOver_of_eq fun _ => rfl⟩
  rw [Aspect.view_of_ne_nat hb, Aspect.view_of_ne_nat hb]
  rfl

theorem isConversation_transmit (server : Endpoint) (id packet : Bytes) :
    IsConversation h (transmit server id packet) := by
  intro queue
  let given : Journal → Except Fault (Bool × List Arrival) := fun v =>
    let round := nextRound h v server packet
    .ok (isTaken round, queue ++ joining id round)
  let change : Journal → Journal :=
    fun v => { v with roundsTaken := v.roundsTaken ++ [roundKey server packet] }
  -- which round is next depends on the rounds taken alone
  have hrun : ∀ j, HostM.runFrom ((transmit server id packet).run queue) h j =
      (given (Aspect.nat.view h j), (posted h server id packet ⟨j, queue⟩).journal) :=
    fun j => gives_transmit h ⟨j, queue⟩ server id packet
  have hresult : ∀ j, (HostM.runFrom ((transmit server id packet).run queue) h j).1 =
      given (Aspect.nat.view h j) := fun j => congrArg Prod.fst (hrun j)
  have hchange : ∀ j, Aspect.nat.view h
      (HostM.runFrom ((transmit server id packet).run queue) h j).2 =
        change (Aspect.nat.view h j) := by
    intro j
    rw [hrun]
    rfl
  refine ⟨localTo_of_view hresult hchange fun b hb j => ?_, requestsOver_of_eq fun j => ?_⟩
  · rw [hrun, Aspect.view_of_ne_nat hb, Aspect.view_of_ne_nat hb]
    rfl
  · rw [hrun]
    rfl

theorem isConversation_await (accept : Bytes → Option α) (size : Nat) (timeout : Binary64) :
    IsConversation h (Socket.await accept size timeout) := by
  intro queue
  let wait : Journal → Awaited α × Binary64 × List Arrival :=
    fun v => awaitAccepted accept size h.timeRefusal (v.clock + timeout) v.clock queue
  let given : Journal → Except Fault (Awaited α × List Arrival) :=
    fun v => .ok ((wait v).1, (wait v).2.2)
  let change : Journal → Journal := fun v => { v with clock := (wait v).2.1 }
  let step : HostM (Awaited α × List Arrival) := (Socket.await accept size timeout).run queue
  have hresult : ∀ j, (step.runFrom h j).1 = given (Aspect.nat.view h j) := fun _ => rfl
  have hchange : ∀ j, Aspect.nat.view h (step.runFrom h j).2 = change (Aspect.nat.view h j) :=
    fun _ => rfl
  refine ⟨localTo_of_view hresult hchange fun b hb j => ?_, requestsOver_of_eq fun _ => rfl⟩
  rw [Aspect.view_of_ne_nat hb, Aspect.view_of_ne_nat hb]
  rfl

theorem isConversation_tries (client : Client) (t : Test) (n : Nat) :
    IsConversation h (client.tries t.server t.changeIp t.changePort n) := by
  induction n with
  | zero => exact isConversation_pure none
  | succ n ih =>
    rw [tries_succ]
    refine (isConversation_lift converses_newTransaction).bind fun id => ?_
    refine (isConversation_transmit t.server _ _).bind fun isSent => ?_
    split
    · refine (isConversation_await _ _ _).bind fun w => ?_
      cases w with
      | received r => exact isConversation_pure _
      | failed => exact isConversation_pure _
      | expired => exact ih
      | refused f => exact isConversation_throw f
    · exact isConversation_pure _

/-- An inquiry is local to the conversation if its tests are. -/
theorem Inquiry.isConversation_make {request : NatType.Requester SocketM}
    (hrequest : ∀ server changeIp changePort,
      IsConversation h (request server changeIp changePort)) (q : Inquiry) :
    IsConversation h (q.make request) := by
  induction q with
  | concluded kind => exact isConversation_pure kind
  | failed f => exact isConversation_throw f
  | test t next ih => exact (hrequest _ _ _).bind ih

/-! ## Servers -/

namespace NatType

theorem converses_resolve (server : String) : Converses h (resolve server) := by
  rw [resolve]
  dsimp only
  cases Numeral.readInt? (splitServer server).2.toList with
  | none => exact converses_throw _
  | some n =>
    refine converses_read.bind fun h' => ?_
    dsimp only
    split
    · exact converses_throw _
    · exact converses_pure _

theorem converses_localAddress (endpoint : Endpoint) :
    Converses h (Network.ofHost.localAddress endpoint) := by
  refine converses_read.bind fun h' => ?_
  split
  · exact converses_pure _
  · exact converses_throw _

theorem converses_ofServer (timeout : Binary64) (server : String) :
    Converses h (ofServer timeout server) := by
  have hrequest : ∀ client : Client, ∀ server changeIp changePort,
      IsConversation h (Network.ofHost.request client server changeIp changePort) :=
    fun client server changeIp changePort =>
      (isConversation_lift (converses_pure _)).bind fun _ =>
        isConversation_tries client ⟨server, changeIp, changePort⟩ client.attempts
  rw [ofServer]
  refine (converses_resolve server).bind fun endpoint => ?_
  refine (converses_localAddress endpoint).bind fun ip => ?_
  refine (converses_pure ()).bind fun _ => ?_
  rw [classify_eq_make]
  exact (Inquiry.isConversation_make (hrequest _) _).converses_run' []

theorem converses_ofServers (timeout : Binary64) (results : List NatType) (servers : List String) :
    Converses h (ofServers timeout .ofHost results servers) := by
  induction servers generalizing results with
  | nil => exact converses_pure _
  | cons server servers ih =>
    refine (converses_ofServer timeout server).attempt.bind fun result => ?_
    cases result with
    | error f =>
      dsimp only
      split
      · exact ih results
      · exact converses_throw f
    | ok kind =>
      dsimp only
      split
      · exact converses_pure _
      · exact ih _

end NatType

end HostReport
