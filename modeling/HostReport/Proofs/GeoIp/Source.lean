import HostReport.GeoIp.Source
import HostReport.Proofs.GeoIp.Payload

/-!
# What asking a source gives

Each of the standard sources makes one request, at a location of its own, and is decided by the
reply to it: it knows what is read from the reply, or nothing if the reading goes wrong.  The
exception is a reading that is not `Contained`, which ends the whole lookup; `Escapes` says of which
replies this holds.
-/

namespace HostReport

/-! ## Guarded readings -/

/-- What a guarded source makes of a reading: nothing, if a fault of the source prevents it. -/
def guardedReading : Except Fault (Option IpInfo) → Except Fault (Option IpInfo) :=
  tolerate Fault.isOfSource none

theorem guardedReading_eq_ok_iff (x : Except Fault (Option IpInfo)) (a : Option IpInfo) :
    guardedReading x = .ok a ↔ Contained x ∧ a = x.toOption.join := by
  cases x with
  | ok b => simp [guardedReading, tolerate, Except.toOption, eq_comm]
  | error f =>
    rw [contained_error_iff]
    by_cases hf : f.isOfSource <;> simp [guardedReading, tolerate, hf, Except.toOption, eq_comm]

/-- A question to a source is decided by the reply to the request of its lookup. -/
theorem fetches_question (c : Consultation) (name : String) {lookup : HostM (Option IpInfo)}
    {limit : Binary64} {key : String} {read : Host → HttpReply → Except Fault (Option IpInfo)}
    (hlookup : Fetches lookup limit key read) :
    Fetches (do HostM.consult c; return (name, ← guarded lookup)) limit key fun h r =>
      (guardedReading (read h r)).bind fun a => .ok (name, a) := by
  refine .after (·.consulting c) (fun h j => HostM.runFrom_consult h j c) (fun _ => rfl) ?_
  exact (hlookup.orElseOn Fault.isOfSource none).bind fun a h j => HostM.runFrom_pure h j _

/-! ## Sources of identities -/

/-- A source that answers with an object at a fixed location, with the member of the object that
alone can make a reading escape. -/
structure Provider where
  name : String
  url : String
  decode : List (String × Json) → Except Fault IpInfo
  asBrowser : Bool := false
  extraHeaders : List (String × String) := []
  number : List (String × Json) → Option Json
  contained_decode_iff : ∀ fields, Contained (decode fields) ↔ ¬IsInfinite (number fields)

namespace Provider

/-- The source that a provider is in the table. -/
def source (p : Provider) : GeoSource :=
  .ofUrl p.name p.url p.decode p.asBrowser p.extraHeaders

/-- The standard sources of identities. -/
def standard : List Provider :=
  [{ name := "ipinfo"
     url := "http://ipinfo.io"
     decode := IpInfo.ofIpinfo
     number := fun _ => none
     contained_decode_iff := fun fields =>
      iff_of_true (IpInfo.contained_ofIpinfo fields) not_isInfinite_none },
    { name := "maxmind"
      url := "https://geoip.maxmind.com/geoip/v2.1/city/me"
      decode := IpInfo.ofMaxmind
      asBrowser := true
      extraHeaders := [("Referer", "https://www.maxmind.com/en/locate-my-ip-address")]
      number := IpInfo.maxmindNumber
      contained_decode_iff := IpInfo.contained_ofMaxmind_iff },
    { name := "cloudflare"
      url := "https://speed.cloudflare.com/meta"
      decode := IpInfo.ofCloudflare
      number := Json.field? "asn"
      contained_decode_iff := IpInfo.contained_ofCloudflare_iff },
    { name := "ipsb"
      url := "https://api.ip.sb/geoip"
      decode := IpInfo.ofIpsb
      asBrowser := true
      number := Json.field? "asn"
      contained_decode_iff := IpInfo.contained_ofIpsb_iff }]

theorem map_source_standard : standard.map source = GeoSource.standard := rfl

theorem nodup_name_standard : (standard.map name).Nodup := by decide

variable (p : Provider) (maxNesting : Nat)

/-- What is read from a reply, on a host that reads texts nested so deeply. -/
def read (r : HttpReply) : Except Fault (Option IpInfo) :=
  (r.fields maxNesting p.url).bind fun fields => (p.decode fields).map some

/-- What the source is taken to know: what can be read from its reply, if anything. -/
def answer (r : HttpReply) : Option IpInfo := (p.read maxNesting r).toOption.join

/-- Whether a reply makes the reading fail in a way that the source is not guarded against: there is
none for such a fault, or its text is nested too deeply, or its network number is infinite. -/
def Escapes (r : HttpReply) : Prop :=
  r.IsBreach ∨ r.json? maxNesting = some (.error .tooDeep) ∨
    ∃ fields, r.json? maxNesting = some (.ok (.object fields)) ∧ IsInfinite (p.number fields)

theorem contained_read_iff (r : HttpReply) :
    Contained (p.read maxNesting r) ↔ ¬p.Escapes maxNesting r := by
  rw [read, contained_bind_iff, r.contained_fields_iff, Escapes, not_or, not_or, and_assoc]
  refine and_congr_right fun _ => and_congr_right fun _ => ?_
  simp only [r.fields_eq_ok_iff, contained_map_iff, p.contained_decode_iff]
  constructor
  · rintro hcontained ⟨fields, hobject, hinfinite⟩
    exact hcontained fields hobject hinfinite
  · exact fun hnone fields hobject hinfinite => hnone ⟨fields, hobject, hinfinite⟩

theorem fetches_lookup (family : Family) (settings : Settings) :
    Fetches (p.source.lookup family.name settings) settings.httpTimeout (replyKey family p.url)
      fun h => p.read h.maxNesting := by
  refine (fetches_fetchJson family p.url settings p.asBrowser p.extraHeaders none).bind
    fun fields h j => ?_
  rw [← map_eq_pure_bind]
  exact HostM.runFrom_map_ofExcept h j some (p.decode fields)

theorem fetches_ask (family : Family) (settings : Settings) :
    Fetches (p.source.ask family.name settings) settings.httpTimeout (replyKey family p.url)
      fun h r => (guardedReading (p.read h.maxNesting r)).bind fun a => .ok (p.name, a) :=
  fetches_question _ p.name (p.fetches_lookup family settings)

end Provider

/-! ## Sources of networks -/

/-- The time limit of a request about a network. -/
def Settings.networkTimeout (settings : Settings) : Binary64 :=
  timeoutInForce (some settings.asnTimeout) settings

/-- A source of networks, with the location where it is asked about an address and the way its reply
is read.  Of the replies that are there, only one that is read as an object can escape. -/
structure Directory where
  source : AsnSource
  url : String → String
  read : Nat → String → HttpReply → Except Fault (Option IpInfo)
  readsObject : Bool
  fetches_lookup : ∀ (ip : String) (family : Family) (settings : Settings),
    Fetches (source.lookup ip family.name settings) settings.networkTimeout
      (replyKey family (url ip)) fun h => read h.maxNesting ip
  contained_read_iff : ∀ (maxNesting : Nat) (ip : String) (r : HttpReply),
    Contained (read maxNesting ip r) ↔
      ¬(r.IsBreach ∨ readsObject = true ∧ r.json? maxNesting = some (.error .tooDeep))

namespace Directory

/-- The directory that answers with a row of quoted values. -/
def hackertarget : Directory where
  source := AsnSource.hackertarget
  url ip := s!"https://api.hackertarget.com/aslookup/?q={ip}"
  read _ ip r := (r.body s!"https://api.hackertarget.com/aslookup/?q={ip}").bind
    (IpInfo.ofHackertarget ip)
  readsObject := false
  fetches_lookup ip family settings :=
    (fetches_fetchText family _ settings false _ _).bind fun _ h j =>
      HostM.runFrom_ofExcept h j _
  contained_read_iff _ ip r := by
    rw [contained_bind_iff, r.contained_body_iff]
    simp [IpInfo.contained_ofHackertarget]

/-- The directory that answers with an object of a single member. -/
def ipapi : Directory where
  source := AsnSource.ipapi
  url ip := s!"http://ip-api.com/json/{ip}?fields=as"
  read maxNesting ip r :=
    (r.fields maxNesting s!"http://ip-api.com/json/{ip}?fields=as").bind fun fields =>
      (IpInfo.ofIpapi ip fields).map some
  readsObject := true
  fetches_lookup ip family settings := by
    refine (fetches_fetchJson family _ settings false [] _).bind fun fields h j => ?_
    rw [← map_eq_pure_bind]
    exact HostM.runFrom_map_ofExcept h j some (IpInfo.ofIpapi ip fields)
  contained_read_iff maxNesting ip r := by
    rw [contained_bind_iff, r.contained_fields_iff]
    simp [IpInfo.contained_ofIpapi]

/-- The standard sources of networks. -/
def standard : List Directory := [hackertarget, ipapi]

theorem map_source_standard : standard.map source = AsnSource.standard := rfl

theorem nodup_name_standard : (standard.map fun d => d.source.name).Nodup := by decide

variable (d : Directory) (maxNesting : Nat)

/-- What the source is taken to know of an address. -/
def answer (ip : String) (r : HttpReply) : Option IpInfo :=
  (d.read maxNesting ip r).toOption.join

/-- Whether a reply makes the reading fail in a way that the source is not guarded against. -/
def Escapes (r : HttpReply) : Prop :=
  r.IsBreach ∨ d.readsObject = true ∧ r.json? maxNesting = some (.error .tooDeep)

theorem fetches_ask (ip : String) (family : Family) (settings : Settings) :
    Fetches (d.source.ask ip family.name settings) settings.networkTimeout
      (replyKey family (d.url ip)) fun h r =>
        (guardedReading (d.read h.maxNesting ip r)).bind fun a => .ok (d.source.name, a) :=
  fetches_question _ d.source.name (d.fetches_lookup ip family settings)

end Directory

end HostReport
