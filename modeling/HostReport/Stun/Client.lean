import HostReport.Host.Socket
import HostReport.Stun.Message

/-!
# A STUN client

A client sends binding requests from one socket, each with a transaction id of its own. A request is
sent up to a number of times; every time the client waits for a response with the id just sent and
passes over everything else, so a late answer to an earlier request decides nothing.
-/

namespace HostReport.Stun

/-- How long a client waits for a response, and how often it sends a request. -/
structure Client where
  timeout : Binary64
  attempts : Nat := 2

/-- The most bytes of a datagram that a client looks at. -/
def receiveSize : Nat := 2048

/-- Draws the next transaction id. -/
def newTransaction : HostM TransactionId := do
  let j ← getModify fun j => { j with transactions := j.transactions + 1 }
  return (← read).transactionId (j.transactions + 1)

/-- An arrival that answers the request with this id: a server copies the id into its response. -/
def answering (id : Bytes) (e : Arrival) : Arrival :=
  if e.isVerbatim || e.bytes.length < headerLength then e
  else { e with bytes := e.bytes.take 8 ++ id ++ e.bytes.drop headerLength }

/-- The name under which the answers to a packet are found: where it goes and its change flags. -/
def roundKey (server : Endpoint) (packet : Bytes) : String :=
  s!"{server.host}:{server.port}/{(packet.getD 27 0).toNat}"

/-- Sends a packet with this id; false if the socket refuses. What follows joins the queue. -/
def transmit (server : Endpoint) (id packet : Bytes) : SocketM Bool := do
  Socket.note (.sent server.host server.port packet)
  let key := roundKey server packet
  let j ← getModifyJournal fun j => { j with roundsTaken := j.roundsTaken ++ [key] }
  let rounds := (Host.find (← read).stun key).getD []
  match rounds[j.roundsTaken.count key]? with
  | none => return true
  | some .refused => return false
  | some (.arrivals events) =>
    modify (· ++ events.map (answering id))
    return true
where
  getModifyJournal (f : Journal → Journal) : SocketM Journal :=
    modifyGetThe Journal fun j => (j, f j)

/-- The response that answers a transaction. -/
def accepted? (id data : Bytes) : Option Response := (decodeResponse data (some id)).toOption

/-- Makes a request at most the given number of times. -/
def Client.tries (client : Client) (server : Endpoint) (changeIp changePort : Bool) :
    Nat → SocketM (Option Response)
  | 0 => return none
  | attempts + 1 => do
    let { bytes := id, .. } ← newTransaction
    match encodeRequest id changeIp changePort with
    | .error f => throw f
    | .ok packet =>
      if ← transmit server id packet then
        match ← Socket.await (accepted? id) receiveSize client.timeout with
        | .received r => return some r
        | .failed => return none
        | .expired => client.tries server changeIp changePort attempts
        | .refused f => throw f
      else return none

/-- Makes a request; nothing if no attempt is answered. -/
def Client.request (client : Client) (server : Endpoint) (changeIp changePort : Bool) :
    SocketM (Option Response) :=
  client.tries server changeIp changePort client.attempts

end HostReport.Stun
