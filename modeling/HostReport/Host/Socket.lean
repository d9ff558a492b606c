import HostReport.Host.Session

/-!
# Sockets

A socket holds what has reached it and has not been received, as a queue of arrivals. Waiting for
something acceptable passes over datagrams that are not, and ends with the first one that is, with
an error of the socket, or when the deadline has passed; the clock moves on accordingly. Before each
datagram the socket is given the time that is left as its limit, which it may refuse.
-/

namespace HostReport

/-- A step that uses one socket, whose queue it may change. -/
abbrev SocketM := StateT (List Arrival) HostM

/-- How waiting ends. -/
inductive Awaited (α : Type) where
  | received (a : α)
  | expired
  | failed
  /-- The time that was left could not be set as a limit. -/
  | refused (fault : Fault)

/-- How long the clock runs until something arrives; it never runs back. -/
def Arrival.wait (e : Arrival) : Binary64 := if Binary64.lt e.delay 0 then 0 else e.delay

/-- Waits from `clock` until `deadline` for a datagram that is accepted; of each datagram at most
`size` bytes are seen, and `refusal` tells which time limits the socket refuses. Returns the clock
and the queue after it. -/
def awaitAccepted {α : Type} (accept : Bytes → Option α) (size : Nat)
    (refusal : Binary64 → Option Fault) (deadline clock : Binary64) :
    List Arrival → Awaited α × Binary64 × List Arrival
  | [] =>
    let remaining := deadline - clock
    if Binary64.lt 0 remaining then
      match refusal remaining with
      | some f => (.refused f, clock, [])
      | none => (.expired, clock + remaining, [])
    else (.expired, clock, [])
  | e :: queue =>
    let remaining := deadline - clock
    if Binary64.lt 0 remaining then
      match refusal remaining with
      | some f => (.refused f, clock, e :: queue)
      | none =>
        if Binary64.lt e.wait remaining then
          if e.isError then (.failed, clock + e.wait, queue)
          else
            match accept (e.bytes.take size) with
            | some a => (.received a, clock + e.wait, queue)
            | none => awaitAccepted accept size refusal deadline (clock + e.wait) queue
        else (.expired, clock + remaining, { e with delay := e.delay - remaining } :: queue)
    else (.expired, clock, e :: queue)

namespace Socket

/-- Waits at most `timeout` seconds for a datagram that is accepted. -/
def await {α : Type} (accept : Bytes → Option α) (size : Nat) (timeout : Binary64) :
    SocketM (Awaited α) := do
  let refusal := (← readThe Host).timeRefusal
  let clock := (← getThe Journal).clock
  let (result, clock, queue) := awaitAccepted accept size refusal (clock + timeout) clock (← get)
  modifyThe Journal fun j => { j with clock }
  set queue
  return result

/-- Notes what the socket is told to do. -/
def note (a : WireAction) : HostM Unit := modify fun j => { j with wire := j.wire ++ [a] }

end Socket

end HostReport
