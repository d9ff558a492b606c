import HostReport.Proofs.Number.TimeLeft
import HostReport.Proofs.Run

/-!
# Waiting at a socket

A wait hears the datagrams that arrive in time and before an error of the socket, in their order.
It ends with the first of them that is accepted; if there is none, it fails where an error has
arrived in time, is refused where the time left after some of them cannot be set as a limit, and
expires otherwise.
-/

namespace HostReport

variable {α : Type}

/-! ## What is heard -/

section

variable (refusal : Binary64 → Option Fault)

/-- What arrives in time, of a queue whose delays count from one arrival to the next, as long as the
time that is left can be set as a limit. -/
def timely (deadline clock : Binary64) : List Arrival → List Arrival
  | [] => []
  | e :: queue =>
    if Binary64.lt 0 (deadline - clock) && (refusal (deadline - clock)).isNone &&
        Binary64.lt e.wait (deadline - clock) then
      e :: timely deadline (clock + e.wait) queue
    else []

/-- The datagrams that arrive in time and before an error, as far as they are looked at. -/
def heard (size : Nat) (deadline clock : Binary64) (queue : List Arrival) : List Bytes :=
  ((timely refusal deadline clock queue).takeWhile fun e => !e.isError).map fun e =>
    e.bytes.take size

/-- Whether an error arrives in time. -/
def isDisturbed (deadline clock : Binary64) (queue : List Arrival) : Bool :=
  (timely refusal deadline clock queue).any fun e => e.isError

/-- The fault with which the time is refused that is left behind all that arrives in time. -/
def lastRefusal (deadline clock : Binary64) : List Arrival → Option Fault
  | [] => if Binary64.lt 0 (deadline - clock) then refusal (deadline - clock) else none
  | e :: queue =>
    if Binary64.lt 0 (deadline - clock) then
      match refusal (deadline - clock) with
      | some f => some f
      | none =>
        if Binary64.lt e.wait (deadline - clock) then lastRefusal deadline (clock + e.wait) queue
        else none
    else none

end

theorem Arrival.not_wait_lt (e : Arrival) : Binary64.lt e.wait 0 = false := by
  rw [wait]
  split
  · rw [Binary64.zero_eq]
    rfl
  · exact Bool.eq_false_iff.2 ‹_›

/-- A time that is refused is left of the timeout of the wait, as the clock does not run back. -/
theorem exists_of_lastRefusal {refusal : Binary64 → Option Fault} {start timeout clock : Binary64}
    {queue : List Arrival} {f : Fault} (hclock : Binary64.lt clock start = false)
    (hlast : lastRefusal refusal (start + timeout) clock queue = some f) :
    ∃ time, timeout.IsLeft time ∧ refusal time = some f := by
  induction queue generalizing clock with
  | nil =>
    rw [lastRefusal, Option.ite_none_right_eq_some] at hlast
    exact ⟨_, ⟨start, clock, hclock, hlast.1, rfl⟩, hlast.2⟩
  | cons e queue ih =>
    rw [lastRefusal, Option.ite_none_right_eq_some] at hlast
    obtain ⟨hpositive, hlast⟩ := hlast
    cases hrefusal : refusal (start + timeout - clock) with
    | some f' =>
      rw [hrefusal] at hlast
      exact ⟨_, ⟨start, clock, hclock, hpositive, rfl⟩, hrefusal.trans hlast⟩
    | none =>
      simp only [hrefusal, Option.ite_none_right_eq_some] at hlast
      exact ih (Binary64.not_lt_add hclock e.not_wait_lt) hlast.2

/-- How a wait ends that has heard an answer, or none. -/
def Awaited.ofAnswer (disturbed : Bool) (refused : Option Fault) : Option α → Awaited α
  | some a => .received a
  | none => if disturbed then .failed else refused.elim .expired .refused

theorem Awaited.eq_some_of_ofAnswer {disturbed : Bool} {refused : Option Fault} {a : Option α}
    {f : Fault} (hending : ofAnswer disturbed refused a = .refused f) : refused = some f := by
  cases a with
  | some a => exact nomatch hending
  | none =>
    cases disturbed with
    | true => exact nomatch hending
    | false =>
      cases refused with
      | none => exact nomatch hending
      | some f' =>
        cases hending
        rfl

/-- What comes of a wait: an answer or none, or the fault of a refused limit. -/
def Awaited.outcome : Awaited α → Except Fault (Option α)
  | .received a => .ok (some a)
  | .expired => .ok none
  | .failed => .ok none
  | .refused f => .error f

theorem Awaited.outcome_eq_some_iff {w : Awaited α} {a : α} :
    w.outcome = .ok (some a) ↔ w = .received a := by
  cases w <;> simp [outcome]

theorem Awaited.outcome_eq_error_iff {w : Awaited α} {f : Fault} :
    w.outcome = .error f ↔ w = .refused f := by
  cases w <;> simp [outcome]

/-- A wait is decided by the first datagram that is heard and accepted, and else by whether an error
arrives in time and whether the time left behind all that does is refused. -/
theorem awaitAccepted_fst (accept : Bytes → Option α) (size : Nat)
    (refusal : Binary64 → Option Fault) (deadline clock : Binary64) (queue : List Arrival) :
    (awaitAccepted accept size refusal deadline clock queue).1 =
      .ofAnswer (isDisturbed refusal deadline clock queue)
        (lastRefusal refusal deadline clock queue)
        ((heard refusal size deadline clock queue).findSome? accept) := by
  induction queue generalizing clock with
  | nil =>
    by_cases hwaiting : Binary64.lt 0 (deadline - clock)
    · cases hrefusal : refusal (deadline - clock) <;>
        simp [awaitAccepted, heard, timely, isDisturbed, lastRefusal, Awaited.ofAnswer, hwaiting,
          hrefusal]
    · simp [awaitAccepted, heard, timely, isDisturbed, lastRefusal, Awaited.ofAnswer, hwaiting]
  | cons e queue ih =>
    by_cases hwaiting : Binary64.lt 0 (deadline - clock)
    · cases hrefusal : refusal (deadline - clock) with
      | some f =>
        simp [awaitAccepted, heard, timely, isDisturbed, lastRefusal, Awaited.ofAnswer, hwaiting,
          hrefusal]
      | none =>
        by_cases htimely : Binary64.lt e.wait (deadline - clock)
        · by_cases herror : e.isError
          · simp [awaitAccepted, heard, timely, isDisturbed, Awaited.ofAnswer, hwaiting, hrefusal,
              htimely, herror]
          · cases haccept : accept (e.bytes.take size) with
            | some a =>
              simp [awaitAccepted, heard, timely, Awaited.ofAnswer, hwaiting, hrefusal, htimely,
                herror, haccept]
            | none =>
              have hrest := ih (clock + e.wait)
              simpa [awaitAccepted, heard, timely, isDisturbed, lastRefusal, Awaited.ofAnswer,
                hwaiting, hrefusal, htimely, herror, haccept] using hrest
        · simp [awaitAccepted, heard, timely, isDisturbed, lastRefusal, Awaited.ofAnswer, hwaiting,
            hrefusal, htimely]
    · simp [awaitAccepted, heard, timely, isDisturbed, lastRefusal, Awaited.ofAnswer, hwaiting]

/-- Whether what is left of a timeout may be a time limit that the sockets of a host refuse with
this fault. -/
def Host.RefusesLeftOf (h : Host) (timeout : Binary64) (f : Fault) : Prop :=
  ∃ time, timeout.IsLeft time ∧ h.timeRefusal time = some f

/-- Whether the sockets of a host refuse what is left of a timeout with no fault but these. -/
def Host.WaitsBut (h : Host) (timeout : Binary64) (fault : Fault → Prop) : Prop :=
  ∀ f, h.RefusesLeftOf timeout f → fault f

/-- A wait is refused with a fault by which the socket refuses what is left of the timeout. -/
theorem Host.refusesLeftOf_of_refused {h : Host} {timeout clock : Binary64}
    {accept : Bytes → Option α} {size : Nat} {queue : List Arrival} {f : Fault}
    (hrefused : (awaitAccepted accept size h.timeRefusal (clock + timeout) clock queue).1 =
      .refused f) : h.RefusesLeftOf timeout f := by
  rw [awaitAccepted_fst] at hrefused
  exact exists_of_lastRefusal (Binary64.not_lt_self clock) (Awaited.eq_some_of_ofAnswer hrefused)

/-- A platform that holds every time limit up to some seconds takes what is left of a timeout that
is at most half as long. -/
theorem Host.waitsBut_ofInt {h : Host} (seconds limit : Nat) (hlimit : limit ≤ 2 ^ 53)
    (hle : 2 * seconds ≤ limit)
    (htimes : ∀ time, (h.timeRefusal time).isSome → Binary64.lt (.ofInt limit) time)
    (fault : Fault → Prop) : h.WaitsBut (.ofInt seconds) fault := by
  rintro f ⟨time, hleft, hf⟩
  obtain ⟨u, hu, rfl, hbound⟩ := Binary64.exists_of_isLeft_ofInt (by omega) hleft
  obtain ⟨_, heq⟩ := Binary64.ofInt_eq (n := limit) (by omega)
  have hlarge := htimes _ (Option.isSome_of_mem hf)
  rw [heq, Binary64.lt, decide_eq_true_iff, Binary64.signedUnits_natAbs_mul] at hlarge
  have hmul := Nat.mul_le_mul_right unitsPerOne hle
  rw [Binary64.signedUnits_false, ← Nat.cast_mul, Nat.cast_lt] at hlarge
  rw [Nat.mul_assoc] at hmul
  omega

/-- Which time limits a platform refuses that counts nanoseconds in sixty-three bits. -/
def nanosecondRefusal (time : Binary64) : Option Fault :=
  if Binary64.lt 9223372036 time then some .outOfRange else none

/-- Such a platform takes what is left of a timeout of less than a hundred years. -/
theorem Host.waitsBut_of_nanoseconds {h : Host} (hplatform : h.timeRefusal = nanosecondRefusal)
    (seconds : Nat) (hle : 2 * seconds ≤ 9223372036) (fault : Fault → Prop) :
    h.WaitsBut (.ofInt seconds) fault := by
  refine waitsBut_ofInt seconds 9223372036 (by decide) hle (fun time htime => ?_) fault
  rw [hplatform, nanosecondRefusal] at htime
  by_contra hshort
  rw [Binary64.ofNat_eq_ofInt, if_neg hshort] at htime
  exact nomatch htime

end HostReport
