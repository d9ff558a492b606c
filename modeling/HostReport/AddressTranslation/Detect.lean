import HostReport.AddressTranslation.Classify
import HostReport.Number.Numeral
import HostReport.Settings
import HostReport.Stun.Client

/-!
# Finding the kind of address translation

STUN servers are asked one after another until one shows a definite kind. If none does, the kind is
blocked where every server that could be asked was, and inconclusive otherwise.
-/

namespace HostReport.NatType

/-- The parts of a server's name before and after the last colon. -/
def splitServer (server : String) : String × String :=
  let reversed := server.toList.reverse
  match Text.cut? ':' reversed with
  | some (port, host) => (String.ofList host.reverse, String.ofList port.reverse)
  | none => ("", server)

/-- The calls of the operating system that asking a server takes, besides those that a client of its
own handles. Each of them may fail. -/
structure Network where
  /-- The address of a name, with a port. -/
  lookUp : String → Int → HostM Endpoint
  /-- The address from which an endpoint is reached. -/
  localAddress : Endpoint → HostM String
  /-- Opens a socket for the tests of a server and binds it. -/
  openSocket : HostM Unit
  /-- Readies the socket for a test; fails where sending or receiving does so in a way that a client
  does not handle. -/
  ready : Endpoint → Bool → Bool → HostM Unit

/-- The calls as the facts of the host answer them. -/
def Network.ofHost : Network where
  lookUp host port := do
    let ip := (Host.find (← read).names host).getD ""
    if ip.isEmpty then throw .unavailable else return ⟨ip, port⟩
  localAddress _ := do
    match (← read).localAddress with
    | some ip => return ip
    | none => throw .unavailable
  openSocket := pure ()
  ready _ _ _ := pure ()

/-- Makes tests with a client. -/
def Network.request (network : Network) (client : Stun.Client) : Requester SocketM :=
  fun server changeIp changePort => do
    network.ready server changeIp changePort
    client.request server changeIp changePort

/-- The address of a server named by host and port. -/
def resolve (server : String) (network : Network := .ofHost) : HostM Endpoint := do
  let (host, port) := splitServer server
  match Numeral.readInt? port.toList with
  | none => throw .malformed
  | some n => network.lookUp host n

/-- What one server shows, with a socket of its own. -/
def ofServer (timeout : Binary64) (server : String) (network : Network := .ofHost) :
    HostM NatType := do
  let endpoint ← resolve server network
  let ip ← network.localAddress endpoint
  network.openSocket
  (classify (network.request { timeout }) endpoint ip).run' []

/-- A fault that makes a server unusable. -/
def isOfServer (f : Fault) : Bool := f.isSystem || f.isValue

/-- The answer when no server showed a definite kind; `results` are those of the usable ones. -/
def verdict (results : List NatType) : NatType :=
  if !results.isEmpty && results.all (· = blocked) then blocked else inconclusive

/-- Asks the servers in order, after some that showed nothing definite. -/
def ofServers (timeout : Binary64) (network : Network) (results : List NatType) :
    List String → HostM NatType
  | [] => return verdict results
  | server :: servers => do
    match ← HostM.attempt (ofServer timeout server network) with
    | .error f => if isOfServer f then ofServers timeout network results servers else throw f
    | .ok result =>
      if result.isDefinite then return result
      else ofServers timeout network (results ++ [result]) servers

/-- The kind of address translation that the servers show. -/
def detect (timeout : Binary64) (servers : List String) (network : Network := .ofHost) :
    HostM NatType :=
  ofServers timeout network [] servers

end HostReport.NatType
