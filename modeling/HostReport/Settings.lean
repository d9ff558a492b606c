import HostReport.Host.Session
import HostReport.Number.Numeral

/-!
# Settings

What a run is told: the language of the report, timeouts, how many collectors may run at once, how
often a request is repeated, and the STUN servers. Numbers may be set by environment variables; a
variable that holds no number is passed over, and the two counts have a least value.
-/

namespace HostReport

/-- The languages of a report. -/
inductive Language where
  | english
  | chinese
  deriving DecidableEq, Repr

namespace Language

/-- The code of a language. -/
def code : Language → String
  | english => "en"
  | chinese => "zh"

/-- The language with this code. -/
def ofCode? (name : String) : Option Language :=
  if name = "en" then some english else if name = "zh" then some chinese else none

/-- The language that texts are picked in for a code: Chinese for its own, English for all
others. -/
def ofCode (name : String) : Language := if name = "zh" then chinese else english

/-- The language chosen by a code in either case; no code chooses Chinese. -/
def choose (name : String) : Except Fault Language :=
  let code := lowercase (if name.isEmpty then "zh" else name)
  match ofCode? code with
  | some l => .ok l
  | none => .error (.unsupportedLanguage code)

end Language

/-- The settings of a run. Timeouts are in seconds. -/
structure Settings where
  language : Language := .chinese
  isLogging : Bool := false
  /-- Of one request to a remote source. -/
  httpTimeout : Binary64 := 12
  /-- Of one request to a source of network numbers. -/
  asnTimeout : Binary64 := 6
  /-- Of one connection of the precheck. -/
  precheckTimeout : Binary64 := 3
  /-- Of one STUN request. -/
  stunTimeout : Binary64 := 3
  maxWorkers : Int := 8
  httpRetries : Int := 3
  stunServers : List String :=
    ["stun.voipgate.com:3478", "stun.miwifi.com:3478", "stunserver.stunprotocol.org:3478"]
  /-- Whether the run is counted. -/
  isCounted : Bool := true
  deriving DecidableEq

namespace Settings

/-- What the names of all environment variables of the program begin with. -/
def variableStem : String := "HOSTBASICS_"

/-- The text of an environment variable of the program, empty if it is not set. -/
def environmentText (environment : List (String × String)) (name : String) : String :=
  (environment.lookup (variableStem ++ name)).getD ""

/-- The number in an environment variable, or `otherwise` if it is blank or holds no number. -/
def number {α : Type} (readNumber : List Char → Option α) (environment : List (String × String))
    (name : String) (otherwise : α) : α :=
  let text := Text.strip (environmentText environment name).toList
  if text.isEmpty then otherwise else (readNumber text).getD otherwise

/-- The settings for a language code and an environment. -/
def ofEnvironment (environment : List (String × String)) (languageCode : String)
    (isLogging : Bool) : Except Fault Settings := do
  let standard : Settings := {}
  let double := number Numeral.readDouble? environment
  let integer := number Numeral.readInt? environment
  let language ← Language.choose languageCode
  return {
    language
    isLogging
    httpTimeout := double "HTTP_TIMEOUT" standard.httpTimeout
    asnTimeout := double "ASN_TIMEOUT" standard.asnTimeout
    precheckTimeout := double "PRECHECK_TIMEOUT" standard.precheckTimeout
    stunTimeout := double "STUN_TIMEOUT" standard.stunTimeout
    maxWorkers := max 1 (integer "MAX_WORKERS" standard.maxWorkers)
    httpRetries := max 0 (integer "HTTP_RETRIES" standard.httpRetries)
    isCounted := (environmentText environment "NO_HIT").isEmpty }

end Settings

end HostReport
