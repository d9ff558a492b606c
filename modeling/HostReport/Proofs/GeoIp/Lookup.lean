import HostReport.GeoIp.Lookup
import HostReport.Proofs.GeoIp.Merging
import HostReport.Proofs.GeoIp.Source
import Mathlib.Data.List.Basic

/-!
# When a lookup of identities gives a result

All requests of a lookup have keys of their own, so the replies that decide it can be read off the
journal before it.  The lookup gives a result unless a reply escapes from its source, and the result
is then merged from what the sources are taken to know, in which each source whose reading goes
wrong counts for nothing.
-/

namespace HostReport

/-! ## Keys -/

theorem Directory.url_ne_url (ip : String) {p : Provider} (hp : p ∈ Provider.standard)
    {d : Directory} (hd : d ∈ Directory.standard) : d.url ip ≠ p.url := by
  -- the locations of the two tables differ within their first fourteen characters
  intro heq
  have hfront := congrArg (fun s => s.toList.take 14) heq
  simp only [Provider.standard, List.mem_cons, List.not_mem_nil, or_false] at hp
  simp only [Directory.standard, List.mem_cons, List.not_mem_nil, or_false] at hd
  rcases hp with rfl | rfl | rfl | rfl <;> rcases hd with rfl | rfl <;>
    simp [Directory.hackertarget, Directory.ipapi, String.toList_append, toString] at hfront

theorem Directory.nodup_key_standard (ip : String) (family : Family) :
    (Directory.standard.map fun d => replyKey family (d.url ip)).Nodup := by
  have hne : Directory.hackertarget.url ip ≠ Directory.ipapi.url ip := by
    intro heq
    have hfront := congrArg (fun s => s.toList.take 14) heq
    simp [Directory.hackertarget, Directory.ipapi, String.toList_append, toString] at hfront
  simp [Directory.standard, replyKey_inj, hne]

/-! ## The answers of the sources of identities -/

/-- What the sources of identities are taken to know of a family, in the order of the table. -/
def Host.answersAbout (h : Host) (settings : Settings) (j : Journal) (family : Family) :
    List IpInfo :=
  Provider.standard.filterMap fun p =>
    p.answer h.maxNesting (h.nextReply settings.httpTimeout j (replyKey family p.url))

/-- The questions of a check: each family put to each source. -/
def CheckType.questions (check : CheckType) : List (Family × Provider) :=
  check.families.flatMap fun family => Provider.standard.map fun p => (family, p)

theorem CheckType.mem_questions_iff {check : CheckType} {q : Family × Provider} :
    q ∈ check.questions ↔ q.1 ∈ check.families ∧ q.2 ∈ Provider.standard := by
  obtain ⟨family, p⟩ := q
  simp only [questions, List.mem_flatMap, List.mem_map, Prod.mk.injEq]
  constructor
  · rintro ⟨_, hfamily, _, hp, rfl, rfl⟩
    exact ⟨hfamily, hp⟩
  · rintro ⟨hfamily, hp⟩
    exact ⟨family, hfamily, p, hp, rfl, rfl⟩

theorem CheckType.forall_questions_iff {check : CheckType} {P : Family → Provider → Prop} :
    (∀ q ∈ check.questions, P q.1 q.2) ↔
      ∀ family ∈ check.families, ∀ p ∈ Provider.standard, P family p :=
  ⟨fun hall family hfamily p hp => hall (family, p) (mem_questions_iff.2 ⟨hfamily, hp⟩),
    fun hall q hq => hall q.1 (mem_questions_iff.1 hq).1 q.2 (mem_questions_iff.1 hq).2⟩

theorem CheckType.nodup_key_questions (check : CheckType) :
    (check.questions.map fun q => replyKey q.1 q.2.url).Nodup := by
  cases check <;> decide

/-- What the answer to a question is, with its family. -/
def Host.answerTo (h : Host) (settings : Settings) (j : Journal) (q : Family × Provider) :
    Family × String × Option IpInfo :=
  (q.1, q.2.name,
    q.2.answer h.maxNesting (h.nextReply settings.httpTimeout j (replyKey q.1 q.2.url)))

section

variable (check : CheckType) (settings : Settings) (h : Host) (j : Journal)

theorem askSources_standard :
    askSources check.families settings GeoSource.standard =
      HostM.all (check.questions.map fun q => do
        return (q.1, ← q.2.source.ask q.1.name settings)) := by
  rw [askSources, ← Provider.map_source_standard, CheckType.questions, List.map_flatMap]
  simp only [List.map_map, Function.comp_def]

theorem fetches_question_ask (q : Family × Provider) :
    Fetches (do return (q.1, ← q.2.source.ask q.1.name settings)) settings.httpTimeout
      (replyKey q.1 q.2.url) fun h r =>
        ((guardedReading (q.2.read h.maxNesting r)).bind fun a => .ok (q.2.name, a)).bind
          fun named => .ok (q.1, named) :=
  (q.2.fetches_ask q.1 settings).bind fun named h j => HostM.runFrom_pure h j (q.1, named)

theorem repliesTaken_askSources :
    ((askSources check.families settings GeoSource.standard).runFrom h j).2.repliesTaken =
      j.repliesTaken ++ check.questions.map fun q => replyKey q.1 q.2.url := by
  rw [askSources_standard]
  exact repliesTaken_all (fun q _ => fetches_question_ask settings q) check.nodup_key_questions h j

/-- Asking gives the answers to all questions exactly if no reply escapes. -/
theorem askSources_eq_ok_iff (answers : List (Family × String × Option IpInfo)) :
    ((askSources check.families settings GeoSource.standard).runFrom h j).1 = .ok answers ↔
      (∀ family ∈ check.families, ∀ p ∈ Provider.standard,
        ¬p.Escapes h.maxNesting (h.nextReply settings.httpTimeout j (replyKey family p.url))) ∧
        answers = check.questions.map (h.answerTo settings j) := by
  rw [askSources_standard, ← CheckType.forall_questions_iff
    (P := fun family p =>
      ¬p.Escapes h.maxNesting (h.nextReply settings.httpTimeout j (replyKey family p.url)))]
  refine all_eq_ok_iff (fun q _ => fetches_question_ask settings q) check.nodup_key_questions h
    (fun q r => q.2.Escapes h.maxNesting r)
    (fun q r => (q.1, q.2.name, q.2.answer h.maxNesting r)) (fun q r answer => ?_) j answers
  refine HostM.bind_ok_eq_ok_iff (fun named => ?_) (Prod.mk q.1) answer
  rw [← q.2.contained_read_iff]
  exact HostM.bind_ok_eq_ok_iff (guardedReading_eq_ok_iff _) (Prod.mk q.2.name) named

end

/-- Among the answers to a check, those about a family are the ones of its own requests. -/
theorem answersAbout_questions (check : CheckType) (settings : Settings) (h : Host) (j : Journal)
    (family : Family) :
    answersAbout family (check.questions.map (h.answerTo settings j)) =
      if family ∈ check.families then
        Provider.standard.map fun p =>
          (p.name,
            p.answer h.maxNesting (h.nextReply settings.httpTimeout j (replyKey family p.url)))
      else [] := by
  cases check <;> cases family <;> rfl

/-- What the sources of identities are taken to know of a family of a check, merged in the order of
their table. -/
def Host.mergedFrom (h : Host) (settings : Settings) (j : Journal) (check : CheckType)
    (family : Family) : Option IpInfo :=
  if family ∈ check.families then IpInfo.merged (h.answersAbout settings j family) else none

/-- What is known of a family before its network is looked up. -/
theorem identityOf_questions (check : CheckType) (settings : Settings) (h : Host) (j : Journal)
    (family : Family) :
    identityOf family (check.questions.map (h.answerTo settings j)) GeoSource.standard =
      h.mergedFrom settings j check family := by
  have hnames : GeoSource.standard.map (·.name) = Provider.standard.map (·.name) := rfl
  rw [identityOf, answersAbout_questions, hnames, Host.mergedFrom]
  by_cases hfamily : family ∈ check.families
  · rw [if_pos hfamily, if_pos hfamily]
    exact IpInfo.mergeByPriority_eq_merged fun p hp =>
      lookup_map_of_nodup Provider.nodup_name_standard hp
  · rw [if_neg hfamily, if_neg hfamily]
    rfl

/-! ## The answers of the sources of networks -/

/-- Whether the network of a record is looked up: there is a location and an address, but no
number. -/
def IpInfo.seeksNetwork (i : IpInfo) : Bool := i.needsAsn && !i.ip.isEmpty

theorem IpInfo.not_seeksNetwork (i : IpInfo) :
    (!i.needsAsn || i.ip.isEmpty) = !i.seeksNetwork := by
  simp [seeksNetwork, Bool.not_and]

namespace Host

/-- What the sources of networks are taken to know of an address, in the order of the table. -/
def networksOf (h : Host) (settings : Settings) (j : Journal) (family : Family) (ip : String) :
    List IpInfo :=
  Directory.standard.filterMap fun d =>
    d.answer h.maxNesting ip (h.nextReply settings.networkTimeout j (replyKey family (d.url ip)))

/-- A record with its network filled from what the sources of networks are taken to know. -/
def withNetwork (h : Host) (settings : Settings) (j : Journal) (family : Family) (i : IpInfo) :
    IpInfo :=
  if i.seeksNetwork then i.fillNetworkFrom (h.networksOf settings j family i.ip) else i

/-- Whether a reply about the network of a record escapes from its source. -/
def NetworkEscapes (h : Host) (settings : Settings) (j : Journal) (family : Family)
    (i : IpInfo) : Prop :=
  i.seeksNetwork = true ∧
    ∃ d ∈ Directory.standard,
      d.Escapes h.maxNesting (h.nextReply settings.networkTimeout j (replyKey family (d.url i.ip)))

end Host

section

variable (settings : Settings) (h : Host) (j : Journal) (family : Family) (i : IpInfo)

theorem runFrom_requireWorkers {count : Int} (hcount : 0 < count) :
    (requireWorkers count).runFrom h j = (.ok (), j) := by
  rw [requireWorkers, if_neg (Int.not_le.2 hcount)]
  rfl

theorem requireWorkers_eq_ok_iff (count : Int) (u : Unit) :
    ((requireWorkers count).runFrom h j).1 = .ok u ↔ 0 < count := by
  by_cases hcount : 0 < count
  · rw [runFrom_requireWorkers h j hcount]
    exact iff_of_true rfl hcount
  · rw [requireWorkers, if_pos (Int.not_lt.1 hcount)]
    exact iff_of_false (fun hok => nomatch hok) hcount

/-- There is a worker for the sources of networks if there is one at all. -/
theorem runFrom_requireWorkers_forSources {settings : Settings}
    (hworkers : 0 < settings.maxWorkers) (sources : List AsnSource) :
    (requireWorkers (min settings.maxWorkers (max sources.length 1))).runFrom h j = (.ok (), j) := by
  refine runFrom_requireWorkers h j (Int.lt_min.2 ⟨hworkers, ?_⟩)
  omega

/-- All sources of networks asked about an address. -/
def askNetworks (ip : String) : HostM (List (String × Option IpInfo)) :=
  HostM.all (Directory.standard.map fun d => d.source.ask ip family.name settings)

theorem repliesTaken_askNetworks (ip : String) :
    ((askNetworks settings family ip).runFrom h j).2.repliesTaken =
      j.repliesTaken ++ Directory.standard.map fun d => replyKey family (d.url ip) :=
  repliesTaken_all (fun d _ => d.fetches_ask ip family settings)
    (Directory.nodup_key_standard ip family) h j

/-- Asking gives all answers about an address exactly if no reply escapes. -/
theorem askNetworks_eq_ok_iff (ip : String) (answers : List (String × Option IpInfo)) :
    ((askNetworks settings family ip).runFrom h j).1 = .ok answers ↔
      (∀ d ∈ Directory.standard,
        ¬d.Escapes h.maxNesting
          (h.nextReply settings.networkTimeout j (replyKey family (d.url ip)))) ∧
        answers = Directory.standard.map fun d =>
          (d.source.name, d.answer h.maxNesting ip
            (h.nextReply settings.networkTimeout j (replyKey family (d.url ip)))) := by
  refine all_eq_ok_iff (fun d _ => d.fetches_ask ip family settings)
    (Directory.nodup_key_standard ip family) h (fun d r => d.Escapes h.maxNesting r)
    (fun d r => (d.source.name, d.answer h.maxNesting ip r)) (fun d r answer => ?_) j answers
  rw [Directory.Escapes, ← d.contained_read_iff h.maxNesting ip]
  exact HostM.bind_ok_eq_ok_iff (guardedReading_eq_ok_iff _) (Prod.mk d.source.name) answer

theorem completeNetwork_eq :
    i.completeNetwork family.name settings =
      if i.seeksNetwork then do
        requireWorkers (min settings.maxWorkers (max AsnSource.standard.length 1))
        let answers ← askNetworks settings family i.ip
        return IpInfo.fillNetwork answers i (Directory.standard.map fun d => d.source.name)
      else return i := by
  rw [IpInfo.completeNetwork, i.not_seeksNetwork, ← Directory.map_source_standard]
  cases i.seeksNetwork <;> rfl

variable {settings}

/-- Where a record seeks a network, there are workers for the sources of networks. -/
theorem runFrom_completeNetwork (hworkers : 0 < settings.maxWorkers)
    (hi : i.seeksNetwork = true) :
    (i.completeNetwork family.name settings).runFrom h j =
      (do
        let answers ← askNetworks settings family i.ip
        return IpInfo.fillNetwork answers i
          (Directory.standard.map fun d => d.source.name) : HostM IpInfo).runFrom h j := by
  rw [completeNetwork_eq, if_pos hi,
    HostM.runFrom_bind_of_ok h j (runFrom_requireWorkers_forSources h j hworkers _)]

/-- Completing a record gives one exactly if no reply about its network escapes. -/
theorem completeNetwork_eq_ok_iff (hworkers : 0 < settings.maxWorkers) (i' : IpInfo) :
    ((i.completeNetwork family.name settings).runFrom h j).1 = .ok i' ↔
      ¬h.NetworkEscapes settings j family i ∧ i' = h.withNetwork settings j family i := by
  cases hi : i.seeksNetwork with
  | false =>
    rw [completeNetwork_eq, Host.NetworkEscapes, Host.withNetwork]
    simp [hi, eq_comm]
  | true =>
    have hfill : IpInfo.fillNetwork (Directory.standard.map fun d =>
          (d.source.name, d.answer h.maxNesting i.ip
            (h.nextReply settings.networkTimeout j (replyKey family (d.url i.ip)))))
        i (Directory.standard.map fun d => d.source.name) = h.withNetwork settings j family i := by
      rw [Host.withNetwork, if_pos hi]
      exact IpInfo.fillNetwork_eq_fillNetworkFrom
        (fun d hd => lookup_map_of_nodup Directory.nodup_name_standard hd) i
    have hkept : ¬h.NetworkEscapes settings j family i ↔
        ∀ d ∈ Directory.standard,
          ¬d.Escapes h.maxNesting
            (h.nextReply settings.networkTimeout j (replyKey family (d.url i.ip))) := by
      rw [Host.NetworkEscapes]
      simp [hi]
    rw [runFrom_completeNetwork h j family i hworkers hi, HostM.runFrom_bind_eq_ok_iff, hkept]
    simp only [askNetworks_eq_ok_iff, HostM.runFrom_pure, Except.ok.injEq]
    constructor
    · rintro ⟨answers, ⟨hall, rfl⟩, rfl⟩
      exact ⟨hall, hfill⟩
    · rintro ⟨hall, rfl⟩
      exact ⟨_, ⟨hall, rfl⟩, hfill⟩

/-- Completing a record takes replies over its own family only. -/
theorem repliesTaken_completeNetwork (hworkers : 0 < settings.maxWorkers) :
    ∃ keys, ((i.completeNetwork family.name settings).runFrom h j).2.repliesTaken =
        j.repliesTaken ++ keys ∧
      ∀ key ∈ keys, ∃ url, key = replyKey family url := by
  cases hi : i.seeksNetwork with
  | false =>
    rw [completeNetwork_eq, hi]
    exact ⟨[], (List.append_nil _).symm, fun _ hkey => absurd hkey List.not_mem_nil⟩
  | true =>
    refine ⟨Directory.standard.map fun d => replyKey family (d.url i.ip), ?_, fun key hkey => ?_⟩
    · rw [runFrom_completeNetwork h j family i hworkers hi, ← repliesTaken_askNetworks settings,
        HostM.runFrom_bind]
      rcases (askNetworks settings family i.ip).runFrom h j with ⟨f | answers, j'⟩ <;> rfl
    · obtain ⟨d, _, rfl⟩ := List.mem_map.1 hkey
      exact ⟨_, rfl⟩

/-- Completing an identity, if there is one, gives one exactly if no reply about its network
escapes. -/
theorem completed_eq_ok_iff (hworkers : 0 < settings.maxWorkers)
    (identity completion : Option IpInfo) :
    ((completed family identity settings AsnSource.standard).runFrom h j).1 = .ok completion ↔
      (∀ i, identity = some i → ¬h.NetworkEscapes settings j family i) ∧
        completion = identity.map (h.withNetwork settings j family) := by
  cases identity with
  | none => simp [completed, eq_comm]
  | some i =>
    rw [completed, HostM.runFrom_bind_eq_ok_iff]
    simp only [completeNetwork_eq_ok_iff h j family i hworkers, HostM.runFrom_pure, Except.ok.injEq,
      Option.some.injEq, forall_eq', Option.map_some]
    constructor
    · rintro ⟨_, ⟨hkept, rfl⟩, rfl⟩
      exact ⟨hkept, rfl⟩
    · rintro ⟨hkept, rfl⟩
      exact ⟨_, ⟨hkept, rfl⟩, rfl⟩

/-- Completing an identity takes replies over its own family only. -/
theorem repliesTaken_completed (hworkers : 0 < settings.maxWorkers) (identity : Option IpInfo) :
    ∃ keys, ((completed family identity settings AsnSource.standard).runFrom h j).2.repliesTaken =
        j.repliesTaken ++ keys ∧
      ∀ key ∈ keys, ∃ url, key = replyKey family url := by
  cases identity with
  | none => exact ⟨[], (List.append_nil _).symm, fun _ hkey => absurd hkey List.not_mem_nil⟩
  | some i =>
    obtain ⟨keys, htaken, hkeys⟩ := repliesTaken_completeNetwork h j family i hworkers
    refine ⟨keys, ?_, hkeys⟩
    rw [completed, HostM.runFrom_bind, ← htaken]
    rcases (i.completeNetwork family.name settings).runFrom h j with ⟨f | i', j'⟩ <;> rfl

end

/-! ## The whole lookup -/

/-- Replies about networks that are the same in two journals complete a record in the same way. -/
theorem Host.completion_congr {h : Host} {settings : Settings} {j j' : Journal} (family : Family)
    (hsame : ∀ ip, ∀ d ∈ Directory.standard,
      h.nextReply settings.networkTimeout j' (replyKey family (d.url ip)) =
        h.nextReply settings.networkTimeout j (replyKey family (d.url ip))) :
    h.NetworkEscapes settings j' family = h.NetworkEscapes settings j family ∧
      h.withNetwork settings j' family = h.withNetwork settings j family := by
  refine ⟨funext fun i => propext (and_congr_right fun _ => ?_), funext fun i => ?_⟩
  · exact exists_congr fun d => and_congr_right fun hd => by rw [hsame i.ip d hd]
  · have hnetworks : h.networksOf settings j' family i.ip = h.networksOf settings j family i.ip :=
      List.filterMap_congr fun d hd => by rw [hsame i.ip d hd]
    rw [withNetwork, withNetwork, hnetworks]

/-- What completes one identity does not touch the replies that complete the other. -/
theorem completions_eq_ok_iff {settings : Settings} (hworkers : 0 < settings.maxWorkers) (h : Host)
    (j : Journal) (v4 v6 : Option IpInfo) (ids : Identities) :
    ((do
        let ipv4 ← completed .ipv4 v4 settings AsnSource.standard
        let ipv6 ← completed .ipv6 v6 settings AsnSource.standard
        return { ipv4, ipv6 } : HostM Identities).runFrom h j).1 = .ok ids ↔
      (∀ i, v4 = some i → ¬h.NetworkEscapes settings j .ipv4 i) ∧
      (∀ i, v6 = some i → ¬h.NetworkEscapes settings j .ipv6 i) ∧
      ids = {
        ipv4 := v4.map (h.withNetwork settings j .ipv4)
        ipv6 := v6.map (h.withNetwork settings j .ipv6) } := by
  -- the first completion takes replies over IPv4 only, so those over IPv6 are where they were
  obtain ⟨keys, htaken, hkeys⟩ := repliesTaken_completed h j .ipv4 hworkers v4
  have hlater := Host.completion_congr (h := h) .ipv6 fun ip d _ =>
    Host.nextReply_of_not_mem h settings.networkTimeout htaken fun hkey => by
      obtain ⟨url, heq⟩ := hkeys _ hkey
      exact nomatch (replyKey_inj.1 heq).1
  rw [HostM.runFrom_bind_eq_ok_iff]
  simp only [HostM.runFrom_bind_eq_ok_iff, completed_eq_ok_iff h _ _ hworkers, hlater,
    HostM.runFrom_pure, Except.ok.injEq]
  constructor
  · rintro ⟨_, ⟨hv4, rfl⟩, _, ⟨hv6, rfl⟩, rfl⟩
    exact ⟨hv4, hv6, rfl⟩
  · rintro ⟨hv4, hv6, rfl⟩
    exact ⟨_, ⟨hv4, rfl⟩, _, ⟨hv6, rfl⟩, rfl⟩

/-- The requests about networks have other keys than those of a check. -/
theorem nextReply_after_askSources (check : CheckType) (settings : Settings) (h : Host)
    (j : Journal) (family : Family) (ip : String) {d : Directory} (hd : d ∈ Directory.standard) :
    h.nextReply settings.networkTimeout
        ((askSources check.families settings GeoSource.standard).runFrom h j).2
        (replyKey family (d.url ip)) =
      h.nextReply settings.networkTimeout j (replyKey family (d.url ip)) := by
  refine h.nextReply_of_not_mem _ (repliesTaken_askSources check settings h j) fun hkey => ?_
  obtain ⟨q, hq, heq⟩ := List.mem_map.1 hkey
  exact Directory.url_ne_url ip (CheckType.mem_questions_iff.1 hq).2 hd (replyKey_inj.1 heq).2.symm

/-- What the replies to a lookup give: of each family of the check the merged answers, with the
network filled from what the sources of networks are taken to know. -/
def Host.identitiesFrom (h : Host) (settings : Settings) (j : Journal) (check : CheckType) :
    Identities where
  ipv4 := (h.mergedFrom settings j check .ipv4).map (h.withNetwork settings j .ipv4)
  ipv6 := (h.mergedFrom settings j check .ipv6).map (h.withNetwork settings j .ipv6)

/-- A lookup gives a result exactly if there are workers for it and no reply escapes, neither from
the sources of identities nor, where a network is sought, from the sources of networks.  The result
is then what the replies give, in which a source whose reading goes wrong counts for nothing. -/
theorem lookUpIdentities_eq_ok_iff (check : CheckType) (settings : Settings) (h : Host)
    (j : Journal) (ids : Identities) :
    ((lookUpIdentities check settings).runFrom h j).1 = .ok ids ↔
      0 < settings.maxWorkers ∧
      (∀ family ∈ check.families, ∀ p ∈ Provider.standard,
        ¬p.Escapes h.maxNesting (h.nextReply settings.httpTimeout j (replyKey family p.url))) ∧
      (∀ family i, h.mergedFrom settings j check family = some i →
        ¬h.NetworkEscapes settings j family i) ∧
      ids = h.identitiesFrom settings j check := by
  by_cases hworkers : 0 < settings.maxWorkers
  · have hsame := fun family => Host.completion_congr (h := h) family fun ip d hd =>
      nextReply_after_askSources check settings h j family ip hd
    rw [lookUpIdentities, HostM.runFrom_bind_of_ok h j (runFrom_requireWorkers h j hworkers),
      HostM.runFrom_bind_eq_ok_iff]
    simp only [askSources_eq_ok_iff, completions_eq_ok_iff hworkers, hsame]
    constructor
    · rintro ⟨_, ⟨hkept, rfl⟩, hv4, hv6, rfl⟩
      simp only [identityOf_questions] at hv4 hv6 ⊢
      refine ⟨hworkers, hkept, fun family i hi => ?_, rfl⟩
      cases family with
      | ipv4 => exact hv4 i hi
      | ipv6 => exact hv6 i hi
    · rintro ⟨-, hkept, hnetworks, rfl⟩
      refine ⟨_, ⟨hkept, rfl⟩, ?_⟩
      simp only [identityOf_questions]
      exact ⟨hnetworks .ipv4, hnetworks .ipv6, rfl⟩
  · rw [lookUpIdentities, HostM.runFrom_bind_eq_ok_iff]
    refine iff_of_false ?_ fun hall => hworkers hall.1
    rintro ⟨u, hu, _⟩
    exact hworkers ((requireWorkers_eq_ok_iff h j _ u).1 hu)

/-- A host where one source of identities answers well and another tells an infinite number. -/
def infiniteNumber : Host where
  http := [
    ("ipv4 http://ipinfo.io",
      [.answered 200 "OK" "\x7b\"ip\": \"203.0.113.7\", \"country\": \"US\"\x7d"]),
    ("ipv4 https://api.ip.sb/geoip", [.answered 200 "OK" "\x7b\"asn\": 1e999\x7d"])]

/-- One source that tells an infinite number ends the lookup, also where another has answered. -/
theorem lookUpIdentities_not_total :
    ¬∀ (check : CheckType) (settings : Settings) (h : Host) (j : Journal),
      0 < settings.maxWorkers →
      ((lookUpIdentities check settings).runFrom h j).1 =
        .ok (h.identitiesFrom settings j check) := by
  intro hall
  have hgiven := congrArg Except.toOption (hall .ipv4 {} infiniteNumber {} (by decide))
  have hnone : ((lookUpIdentities .ipv4 {}).runFrom infiniteNumber {}).1.toOption = none := by
    decide +kernel
  exact nomatch hnone.symm.trans hgiven

end HostReport
