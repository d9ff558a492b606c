import HostReport.GeoIp.Info
import HostReport.Number.Integral
import HostReport.Text.Letter
import HostReport.Text.Search

/-!
# Payloads of the sources

How the answer of each source is read as an identity. A member that is missing or of another kind
counts as empty, and texts are taken without blanks around them. Network numbers come as integers,
as doubles, or as texts with or without the letters `AS` in front; a number that is none, or that is
infinite, is a fault.
-/

namespace HostReport

/-- The text of a member, without blanks around it; empty if it is no text. -/
def textMember (data : List (String × Json)) (name : String) : String :=
  match Json.field? name data with
  | some (.text s) => strip s
  | _ => ""

/-- A text without the letters `AS` at its front, in any case. -/
def dropAsLetters (s : List Char) : List Char :=
  match s with
  | a :: b :: r => if Text.capitalIs 'A' a && Text.capitalBegins 'S' b then r else s
  | _ => s

/-- The text of a network number. -/
def asnText : Option Json → Except Fault String
  | some (.int n) => integerText n
  | some (.double x) => do integerText (← x.toInt)
  | some (.text s) => .ok (String.ofList (dropAsLetters (Text.strip s.toList)))
  | _ => .ok ""

/-- Whether a word is `AS` followed by decimal digits, with at most one line feed behind them. -/
def isAsWord (word : List Char) : Bool :=
  match word with
  | a :: s :: digits =>
    let digits := if digits.getLast? == some '\n' then digits.dropLast else digits
    Text.sameLetter 'a' a && Text.sameLetter 's' s && !digits.isEmpty &&
      digits.all Text.isDecimal
  | _ => false

/-- The English name within a place. -/
def englishName (place : Option Json) : String :=
  match place.bind (Json.member? "names") with
  | some (.object names) => textMember names "en"
  | _ => ""

namespace IpInfo

/-- Reads an answer in which number and owner of the network share one member. -/
def ofIpinfo (data : List (String × Json)) : Except Fault IpInfo := do
  let info : IpInfo := {
    ip := textMember data "ip"
    city := textMember data "city"
    region := textMember data "region"
    country := textMember data "country" }
  let org := textMember data "org"
  let (head, rest) := (Text.cut? ' ' org.toList).getD (org.toList, [])
  if isAsWord head then
    let asn ← asnText (some (.text (String.ofList head)))
    return { info with asn, org := strip (String.ofList rest) }
  else return { info with org }

/-- Reads an answer with flat members under the names of a content network. -/
def ofCloudflare (data : List (String × Json)) : Except Fault IpInfo := do
  return {
    ip := textMember data "clientIp"
    asn := ← asnText (Json.field? "asn" data)
    org := textMember data "asOrganization"
    country := textMember data "country"
    region := textMember data "region"
    city := textMember data "city" }

/-- Reads an answer with flat members in lower case. -/
def ofIpsb (data : List (String × Json)) : Except Fault IpInfo := do
  return {
    ip := textMember data "ip"
    asn := ← asnText (Json.field? "asn" data)
    org := textMember data "asn_organization"
    country := textMember data "country"
    region := textMember data "region"
    city := textMember data "city" }

/-- Reads an answer in which places have names in several languages. -/
def ofMaxmind (data : List (String × Json)) : Except Fault IpInfo := do
  let traits :=
    match Json.field? "traits" data with
    | some (.object fields) => fields
    | _ => []
  let region :=
    match Json.field? "subdivisions" data with
    | some (.array (first :: _)) => englishName (some first)
    | _ => ""
  return {
    ip := textMember traits "ip_address"
    asn := ← asnText (Json.field? "autonomous_system_number" traits)
    org := textMember traits "autonomous_system_organization"
    city := englishName (Json.field? "city" data)
    region
    country := englishName (Json.field? "country" data) }

/-- A text without quotation marks at its ends. -/
def dropQuotes (s : List Char) : List Char := Text.trim (· == '"') s

/-- Reads a row of quoted values: address, number, range, and an owner that may hold commas. An
empty answer, one that speaks of an error, and one with fewer values say nothing. -/
def ofHackertarget (ip body : String) : Except Fault (Option IpInfo) := do
  let body := Text.strip body.toList
  if body.isEmpty || Text.contains "error".toList (Text.lower body) then return none
  match body.splitOnP (· == ',') with
  | _ :: number :: _ :: owner :: more =>
    let asn ← asnText (some (.text (String.ofList (dropQuotes (Text.strip number)))))
    let org := dropQuotes (Text.strip (Text.joinWith [','] (owner :: more)))
    return some { ip, asn, org := String.ofList (Text.strip org) }
  | _ => return none

/-- Reads an answer with number and owner of the network in one member. -/
def ofIpapi (ip : String) (data : List (String × Json)) : Except Fault IpInfo := do
  match Text.words (textMember data "as").toList with
  | [] => return { ip }
  | number :: owner =>
    let asn ← asnText (some (.text (String.ofList number)))
    return { ip, asn, org := String.ofList (Text.joinWith [' '] owner) }

end IpInfo

end HostReport
