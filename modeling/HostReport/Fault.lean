import HostReport.Text.Quoted

/-!
# Faults

Every way in which a step can fail, named by its cause. Callers that tolerate failures do so by
kind: `isSystem` for what the operating system refuses, `isValue` for what cannot be read as the
value it should be, and wider classes where a source or a collector as a whole may fail.
-/

namespace HostReport

/-- Why an answer from a remote source could not be used. -/
inductive FetchFault where
  /-- No connection, with the reason. -/
  | unreachable (url reason : String)
  /-- The server refused with this status and reason phrase. -/
  | refused (url : String) (status : Int) (reason : String)
  /-- The body is no JSON text. -/
  | undecodable (url : String)
  /-- The body is JSON, but no object. -/
  | notObject (url : String)
  deriving DecidableEq, Repr

/-- Why a datagram is no usable binding response. -/
inductive StunFault where
  | shortHeader
  | notSuccess (messageType : Nat)
  | foreignTransaction
  | truncatedMessage
  | truncatedAttribute
  | shortAddress
  | unknownFamily (family : Nat)
  | noMappedAddress
  deriving DecidableEq, Repr

/-- Why a step failed. -/
inductive Fault where
  /-- The operating system refused or knows no such thing. -/
  | unavailable
  /-- The operating system asks for more privileges. -/
  | notPermitted
  /-- A value cannot be read as what it should be. -/
  | malformed
  /-- A number is out of range. -/
  | outOfRange
  /-- A value is of another kind than it should be. -/
  | wrongKind
  /-- A record lacks a member. -/
  | missingMember
  /-- A table lacks a key. -/
  | missingKey
  /-- A subsystem failed while it ran. -/
  | broken
  /-- A JSON text is nested too deeply. -/
  | tooDeep
  /-- The text of a page has a declaration that is no markup. -/
  | rejectedMarkup
  /-- A process table or mount is closed to this user. -/
  | accessDenied
  /-- The user interrupted the run. -/
  | interrupted
  | fetch (cause : FetchFault)
  | stun (cause : StunFault)
  /-- There is nothing to merge from. -/
  | nothingToMerge
  | unsupportedLanguage (name : String)
  | wrongCheckType (name : String)
  | invalidFamily (name : String)
  /-- An IPv6 prefix has another size than sixteen bytes. -/
  | wrongPrefixSize
  /-- A transaction id has another size than twelve bytes. -/
  | wrongTransactionSize
  deriving DecidableEq, Repr

/-- The text of a fetch fault. -/
def FetchFault.message : FetchFault → String
  | .unreachable url reason => s!"error fetching {url}: {reason}"
  | .refused url status reason =>
    let side := if status < 500 then "Client" else "Server"
    s!"error fetching {url}: {status} {side} Error: {reason} for url: {url}"
  | .undecodable url => s!"error decoding {url}: "
  | .notObject url => s!"unexpected JSON payload from {url}"

/-- The text of a fault of a datagram. -/
def StunFault.message : StunFault → String
  | .shortHeader => "datagram shorter than a STUN header"
  | .notSuccess t =>
    "not a binding success response: 0x" ++ String.ofList (Text.hexDigits 4 t)
  | .foreignTransaction => "transaction id mismatch"
  | .truncatedMessage => "truncated STUN message"
  | .truncatedAttribute => "truncated attribute"
  | .shortAddress => "address attribute too short"
  | .unknownFamily f => "unknown address family 0x" ++ String.ofList (Text.hexDigits 1 f)
  | .noMappedAddress => "response carries no mapped address"

/-- The text of a fault, for those faults that have a text of their own. -/
def Fault.message? : Fault → Option String
  | .fetch c => some c.message
  | .stun c => some c.message
  | .nothingToMerge => some "cannot merge IpInfo: source is None"
  | .unsupportedLanguage n => some s!"unsupported language: {quoted n} (expected en or zh)"
  | .wrongCheckType n => some s!"wrong check type: {quoted n}"
  | .invalidFamily n => some s!"invalid family: {quoted n}, expected 'ipv4' or 'ipv6'"
  | .wrongPrefixSize => some "an IPv6 prefix is 16 bytes"
  | .wrongTransactionSize => some "transaction id must be 12 bytes"
  | _ => none

/-- Faults of the operating system. -/
def Fault.isSystem : Fault → Bool
  | .unavailable | .notPermitted => true
  | _ => false

/-- Faults of a value that cannot be read or must not be used. -/
def Fault.isValue : Fault → Bool
  | .malformed | .stun _ | .nothingToMerge | .unsupportedLanguage _ | .wrongCheckType _
  | .invalidFamily _ | .wrongPrefixSize | .wrongTransactionSize => true
  | _ => false

/-- Faults of a subsystem. -/
def Fault.isBroken : Fault → Bool
  | .broken | .tooDeep => true
  | _ => false

/-- Faults of one remote source, after which it counts as knowing nothing. -/
def Fault.isOfSource : Fault → Bool
  | .fetch _ | .missingKey | .wrongKind | .missingMember => true
  | f => f.isValue

/-- Faults of one collector, after which its remaining fields stay empty. -/
def Fault.isOfCollector : Fault → Bool
  | .missingMember | .accessDenied => true
  | f => f.isSystem || f.isValue || f.isBroken

end HostReport
