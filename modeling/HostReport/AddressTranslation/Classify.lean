import HostReport.Stun.Message

/-!
# Kinds of address translation

How a translator between the host and the internet maps and filters, found by at most four tests
against a STUN server that has a second address and port: a plain request; one to be answered from
the other address and port; a plain request to the other address; and one to be answered from the
other port alone.
-/

namespace HostReport

/-- What lies between a host and the internet. -/
inductive NatType where
  | openInternet
  | fullCone
  | restrictedCone
  | portRestrictedCone
  | symmetric
  | symmetricFirewall
  | blocked
  | inconclusive
  deriving DecidableEq, Repr

namespace NatType

/-- The name of a kind. -/
def text : NatType → String
  | openInternet => "Open Internet"
  | fullCone => "Full Cone"
  | restrictedCone => "Restricted Cone"
  | portRestrictedCone => "Port Restricted Cone"
  | symmetric => "Symmetric"
  | symmetricFirewall => "Symmetric UDP Firewall"
  | blocked => "Blocked"
  | inconclusive => "Inconclusive"

/-- Whether a kind settles the question, so that no further server is asked. -/
def isDefinite : NatType → Bool
  | blocked | inconclusive => false
  | _ => true

/-- One test: a request to an address, to be answered from the server's other address or port. -/
abbrev Requester (m : Type → Type) := Endpoint → Bool → Bool → m (Option Stun.Response)

/-- The kind of translation that the answers of a server at `server` show for a host that reaches
the internet from `localAddress`. -/
def classify {m : Type → Type} [Monad m] [MonadExceptOf Fault m] (request : Requester m)
    (server : Endpoint) (localAddress : String) : m NatType := do
  match ← request server false false with
  | none => return blocked
  | some first =>
    match first.mapped with
    | none => throw .wrongKind
    | some mapped =>
      let elsewhere ← request server true true
      if mapped.host = localAddress then
        return if elsewhere.isSome then openInternet else symmetricFirewall
      else if elsewhere.isSome then return fullCone
      else
        match first.changed with
        | none => return inconclusive
        | some alternate =>
          match ← request alternate false false with
          | none => return inconclusive
          | some other =>
            if other.mapped ≠ first.mapped then return symmetric
            else
              let otherPort ← request server false true
              return if otherPort.isSome then restrictedCone else portRestrictedCone

end NatType

end HostReport
