import HostReport.GeoIp.Lookup
import HostReport.Ipv6.Mask
import HostReport.Text.Search

/-!
# The network part of a report

For each family that was asked about and answered: a line with number and owner of the network, a
line with the location, and for IPv6 the length of the prefix. A line with nothing to show is left
out.
-/

namespace HostReport

/-- The texts that are not empty, joined with a separator. -/
def joinKnown (separator : String) (texts : List String) : String :=
  separator.intercalate (texts.filter (!·.isEmpty))

namespace IpInfo

/-- The line with number and owner of the network, empty if neither is known. A family without a
label is a fault. -/
def networkLine (i : IpInfo) (family : String) (language : Language) : Except Fault String :=
  if i.asn.isEmpty && i.org.isEmpty then .ok ""
  else do
    let label ← Label.ofKey (family ++ "_asn")
    let number := if i.asn.isEmpty then "" else "AS" ++ i.asn
    return label.line (joinKnown " " [number, i.org]) language

/-- The line with the location, empty if none is known. A family without a label is a fault. -/
def locationLine (i : IpInfo) (family : String) (language : Language) : Except Fault String :=
  if i.hasGeo then do
    let label ← Label.ofKey (family ++ "_location")
    return label.line (joinKnown " / " [i.city, i.region, i.country]) language
  else .ok ""

/-- The lines of a family. -/
def lines (i : IpInfo) (family : String) (language : Language) : Except Fault String := do
  return (← i.networkLine family language) ++ (← i.locationLine family language)

end IpInfo

/-- The lines of a family, none if nothing is known of it. -/
def familyLines (identity : Option IpInfo) (family : Family) (language : Language) :
    HostM String :=
  match identity with
  | none => return ""
  | some i => HostM.ofExcept (i.lines family.name language)

/-- The line with the prefix length for an IPv6 identity. Its own address counts if it is one of
IPv6; otherwise the address is asked for. Without leave of the operating system there is no line. -/
def prefixLine (identity : IpInfo) (language : Language) (settings : Settings)
    (sources : String → List PrefixSource) : HostM String := do
  let address ←
    if identity.ip.toList.contains ':' then pure identity.ip else Ipv6.currentAddress settings
  HostM.orElseOn Fault.isSystem (Ipv6.findMaskLine address language sources) (pure "")

/-- The network part for a check; prefix lengths are looked for if there are sources of them. -/
def networkReport (check : CheckType) (language : Language) (settings : Settings)
    (sources : Option (String → List PrefixSource)) : HostM String := do
  let found ← lookUpIdentities check settings
  let v4 ← familyLines found.ipv4 .ipv4 language
  let v6 ← familyLines found.ipv6 .ipv6 language
  match found.ipv6, sources with
  | some i, some sources => return v4 ++ v6 ++ (← prefixLine i language settings sources)
  | _, _ => return v4 ++ v6

end HostReport
