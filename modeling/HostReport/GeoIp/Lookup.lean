import HostReport.GeoIp.Source

/-!
# Looking up public identities

All sources are asked for every family at once. Their answers are merged in the order of the table
and not in the order in which they come in; an identity that has a location and no network number is
then completed from the sources of networks, up to the first of them that knows the number.
-/

namespace HostReport

/-- Which families are asked about. -/
inductive CheckType where
  | ipv4
  | ipv6
  | both
  deriving DecidableEq, Repr

namespace CheckType

/-- The name of a check. -/
def name : CheckType → String
  | ipv4 => "ipv4"
  | ipv6 => "ipv6"
  | both => "both"

/-- The check with this name. -/
def ofName (name : String) : Except Fault CheckType :=
  if name = "ipv4" then .ok ipv4
  else if name = "ipv6" then .ok ipv6
  else if name = "both" then .ok both
  else .error (.wrongCheckType name)

/-- The families of a check. -/
def families : CheckType → List Family
  | ipv4 => [.ipv4]
  | ipv6 => [.ipv6]
  | both => [.ipv4, .ipv6]

end CheckType

/-- What is known of each family; nothing if it was not asked about or no source answered. -/
structure Identities where
  ipv4 : Option IpInfo
  ipv6 : Option IpInfo
  deriving DecidableEq, Repr

/-- Fails unless there is a worker to run a step. -/
def requireWorkers (count : Int) : HostM Unit := if count ≤ 0 then throw .malformed else pure ()

namespace IpInfo

/-- The record with number and owner of its network filled from the answers in the order of their
names, as far as the first that leaves the number known. -/
def fillNetwork (answers : List (String × Option IpInfo)) (i : IpInfo) : List String → IpInfo
  | [] => i
  | name :: names =>
    match (answers.lookup name).join with
    | none => fillNetwork answers i names
    | some other =>
      let filled : IpInfo :=
        { i with asn := chooseText i.asn other.asn, org := chooseText i.org other.org }
      if filled.asn.isEmpty then fillNetwork answers filled names else filled

/-- Completes an identity that has a location and an address, but no network number. -/
def completeNetwork (i : IpInfo) (family : String) (settings : Settings)
    (sources : List AsnSource := AsnSource.standard) : HostM IpInfo := do
  if !i.needsAsn || i.ip.isEmpty then return i
  requireWorkers (min settings.maxWorkers (max sources.length 1))
  let answers ← HostM.all (sources.map fun s => s.ask i.ip family settings)
  return fillNetwork answers i (sources.map (·.name))

end IpInfo

/-- Asks all sources about the families. -/
def askSources (families : List Family) (settings : Settings) (sources : List GeoSource) :
    HostM (List (Family × String × Option IpInfo)) :=
  HostM.all (families.flatMap fun family =>
    sources.map fun s => do return (family, ← s.ask family.name settings))

/-- The answers about one family. -/
def answersAbout (family : Family) (answers : List (Family × String × Option IpInfo)) :
    List (String × Option IpInfo) :=
  (answers.filter (·.1 = family)).map (·.2)

/-- What is known of one family, of several answers merged in the order of the table. -/
def identityOf (family : Family) (answers : List (Family × String × Option IpInfo))
    (sources : List GeoSource) : Option IpInfo :=
  IpInfo.mergeByPriority (answersAbout family answers) (sources.map (·.name))

/-- The identity of a family, completed if it lacks the network number. -/
def completed (family : Family) (identity : Option IpInfo) (settings : Settings)
    (asnSources : List AsnSource) : HostM (Option IpInfo) :=
  match identity with
  | none => return none
  | some i => do return some (← i.completeNetwork family.name settings asnSources)

/-- The public identities of the families of a check. -/
def lookUpIdentities (check : CheckType) (settings : Settings)
    (sources : List GeoSource := GeoSource.standard)
    (asnSources : List AsnSource := AsnSource.standard) : HostM Identities := do
  requireWorkers settings.maxWorkers
  let answers ← askSources check.families settings sources
  return {
    ipv4 := ← completed .ipv4 (identityOf .ipv4 answers sources) settings asnSources
    ipv6 := ← completed .ipv6 (identityOf .ipv6 answers sources) settings asnSources }

end HostReport
