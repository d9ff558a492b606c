import HostReport.GeoIp.Payload
import HostReport.Http.Fetch

/-!
# Sources of identities

Remote sources that tell the public identity of the host that asks, and sources that tell the
network of an address. Both tables are in order of trust. What goes wrong within one source means
that it knows nothing.
-/

namespace HostReport

/-- A source of public identities, looked up over a family. -/
structure GeoSource where
  name : String
  lookup : String → Settings → HostM (Option IpInfo)

/-- A source of networks, looked up for an address over a family. -/
structure AsnSource where
  name : String
  lookup : String → String → Settings → HostM (Option IpInfo)

/-- What a lookup knows: nothing after a fault of its source. -/
def guarded (lookup : HostM (Option IpInfo)) : HostM (Option IpInfo) :=
  HostM.orElseOn Fault.isOfSource lookup (pure none)

namespace GeoSource

/-- A source that answers with a JSON object at a fixed location. -/
def ofUrl (name url : String) (decode : List (String × Json) → Except Fault IpInfo)
    (asBrowser : Bool := false) (extraHeaders : List (String × String) := []) : GeoSource where
  name := name
  lookup family settings := do
    let data ← fetchJson url family settings asBrowser extraHeaders
    return some (← HostM.ofExcept (decode data))

/-- The sources of identities. -/
def standard : List GeoSource :=
  [ofUrl "ipinfo" "http://ipinfo.io" IpInfo.ofIpinfo,
    ofUrl "maxmind" "https://geoip.maxmind.com/geoip/v2.1/city/me" IpInfo.ofMaxmind true
      [("Referer", "https://www.maxmind.com/en/locate-my-ip-address")],
    ofUrl "cloudflare" "https://speed.cloudflare.com/meta" IpInfo.ofCloudflare,
    ofUrl "ipsb" "https://api.ip.sb/geoip" IpInfo.ofIpsb true]

/-- Asks the source for the identity of a family. -/
def ask (s : GeoSource) (family : String) (settings : Settings) :
    HostM (String × Option IpInfo) := do
  HostM.consult (.identity s.name family)
  return (s.name, ← guarded (s.lookup family settings))

end GeoSource

namespace AsnSource

/-- How often a request for a row of quoted values is repeated. -/
def rowRetries : Int := 2

/-- The source that answers with a row of quoted values. -/
def hackertarget : AsnSource where
  name := "hackertarget"
  lookup ip family settings := do
    let body ← fetchText s!"https://api.hackertarget.com/aslookup/?q={ip}" family settings false
      (some settings.asnTimeout) (some rowRetries)
    HostM.ofExcept (IpInfo.ofHackertarget ip body)

/-- The source that answers with an object of a single member. -/
def ipapi : AsnSource where
  name := "ipapi"
  lookup ip family settings := do
    let data ← fetchJson s!"http://ip-api.com/json/{ip}?fields=as" family settings false []
      (some settings.asnTimeout)
    return some (← HostM.ofExcept (IpInfo.ofIpapi ip data))

/-- The sources of networks. -/
def standard : List AsnSource := [hackertarget, ipapi]

/-- Asks the source for the network of an address. -/
def ask (s : AsnSource) (ip family : String) (settings : Settings) :
    HostM (String × Option IpInfo) := do
  HostM.consult (.network s.name ip family)
  return (s.name, ← guarded (s.lookup ip family settings))

end AsnSource

end HostReport
