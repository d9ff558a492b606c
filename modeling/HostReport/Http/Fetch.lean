import HostReport.Http.Headers
import HostReport.Settings

/-!
# Fetching

Requests over one address family. A session is bound to the wildcard address of its family, so that
only this family can connect. A failed connection and a status from 400 to 599 are faults; what is
fetched as JSON must be an object.
-/

namespace HostReport

/-- An address family. -/
inductive Family where
  | ipv4
  | ipv6
  deriving DecidableEq, Repr

namespace Family

/-- The name of a family. -/
def name : Family → String
  | ipv4 => "ipv4"
  | ipv6 => "ipv6"

/-- The family with this name. -/
def ofName (name : String) : Except Fault Family :=
  if name = "ipv4" then .ok ipv4
  else if name = "ipv6" then .ok ipv6
  else .error (.invalidFamily name)

/-- The wildcard address of a family. -/
def wildcard : Family → String
  | ipv4 => "0.0.0.0"
  | ipv6 => "::"

end Family

/-- When requests are repeated. -/
structure RetryPolicy where
  total : Int
  /-- The factor of the pause before a repetition. -/
  backoff : Nat
  statuses : List Nat
  methods : List String

/-- What requests of one kind have in common. -/
structure HttpSession where
  family : Family
  /-- The address that connections are made from. -/
  source : String
  retry : RetryPolicy
  headers : Headers

namespace HttpSession

/-- How often a request is repeated. -/
def retries (s : HttpSession) : Int := s.retry.total

/-- The statuses after which a request is repeated. -/
def retriedStatuses : List Nat := [429, 500, 502, 503, 504]

/-- The methods of requests that are repeated. -/
def retriedMethods : List String := ["GET"]

/-- The factor of the pause before a repetition. -/
def backoff : Nat := 1

/-- A session over the family with this name, as a browser if that is asked for. -/
def create (family : String) (settings : Settings) (asBrowser : Bool := false)
    (extraHeaders : List (String × String) := []) (retries : Option Int := none) :
    Except Fault HttpSession := do
  let retry : RetryPolicy := {
    total := retries.getD settings.httpRetries
    backoff
    statuses := retriedStatuses
    methods := retriedMethods }
  let family ← Family.ofName family
  let headers := Headers.plain.update (if asBrowser then Headers.browser else [])
  return { family, source := family.wildcard, retry, headers := headers.update extraHeaders }

/-- The answer of the host to a request, which is noted; none where the time limit is refused. -/
def reply (s : HttpSession) (url : String) (timeout : Binary64) : HostM HttpReply := do
  let key := s.family.name ++ " " ++ url
  let request : HttpRequest := {
    family := s.family.name
    url
    isBrowser := s.headers.isBrowser
    referer := s.headers.valueOf "Referer"
    retries := s.retries
    timeout }
  let j ← getModify fun j =>
    { j with requests := j.requests ++ [request], repliesTaken := j.repliesTaken ++ [key] }
  let h ← read
  match h.requestRefusal timeout with
  | some f => return .raised f
  | none =>
    match Host.find h.http key with
    | some script =>
      return (Host.scripted? script (j.repliesTaken.count key)).getD (.failed "no route")
    | none => return .failed "no route"

/-- Whether a status refuses a request. -/
def isRefusal (status : Int) : Bool := 400 ≤ status && status < 600

/-- The body of the answer to a request. -/
def get (s : HttpSession) (url : String) (timeout : Binary64) : HostM String := do
  match ← s.reply url timeout with
  | .raised f => throw f
  | .failed reason => throw (.fetch (.unreachable url reason))
  | .answered status reason body =>
    if isRefusal status then throw (.fetch (.refused url status reason)) else return body

end HttpSession

/-- The timeout that is in force: the one given, unless it is zero. -/
def timeoutInForce (timeout : Option Binary64) (settings : Settings) : Binary64 :=
  match timeout with
  | some t => if t.isZero then settings.httpTimeout else t
  | none => settings.httpTimeout

/-- Fetches a text over a family. -/
def fetchText (url family : String) (settings : Settings) (asBrowser : Bool := false)
    (timeout : Option Binary64 := none) (retries : Option Int := none) : HostM String := do
  let s ← HostM.ofExcept (HttpSession.create family settings asBrowser [] retries)
  s.get url (timeoutInForce timeout settings)

/-- Fetches the fields of a JSON object over a family. -/
def fetchJson (url family : String) (settings : Settings) (asBrowser : Bool := false)
    (extraHeaders : List (String × String) := []) (timeout : Option Binary64 := none) :
    HostM (List (String × Json)) := do
  let s ← HostM.ofExcept (HttpSession.create family settings asBrowser extraHeaders none)
  let body ← s.get url (timeoutInForce timeout settings)
  match ← Host.parseJson body with
  | .ok (.object fields) => return fields
  | .ok _ => throw (.fetch (.notObject url))
  | .error .malformed => throw (.fetch (.undecodable url))
  | .error .tooDeep => throw .tooDeep

end HostReport
