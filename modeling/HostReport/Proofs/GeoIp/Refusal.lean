import HostReport.Proofs.GeoIp.FanIn
import HostReport.Proofs.Http.Alike

/-!
# Which statuses count as failures

A reply with a status from 400 to 599 is a refusal, and what a lookup makes of a refusal is what it
makes of a failed connection: its source knows nothing.  A reply with any other status, whether it
is one of success or not, is read like one with status 200.  So of the statuses that are none of
success only the refusals are taken for failures.
-/

namespace HostReport

open HostM

/-! ## Lookups on hosts whose replies bring the same texts -/

section

variable {h h' : Host}

/-- What a guarded lookup knows does not depend on why it fails. -/
theorem same_guarded {lookup : HostM (Option IpInfo)}
    (hlookup : Agrees Fault.isOfSource h h' lookup) : Same h h' (guarded lookup) :=
  hlookup.orElseOn (same_pure none)

theorem same_requireWorkers (count : Int) : Same h h' (requireWorkers count) := by
  rw [requireWorkers]
  split
  · exact same_throw _
  · exact same_pure _

variable (hsame : h.SameTexts h')

include hsame

theorem GeoSource.same_ask {s : GeoSource} (hs : s ∈ GeoSource.standard) (family : String)
    (settings : Settings) : Same h h' (s.ask family settings) := by
  have hlookup : ∀ (name url : String) (decode : List (String × Json) → Except Fault IpInfo)
      (asBrowser : Bool) (extraHeaders : List (String × String)),
      Agrees Fault.isOfSource h h'
        ((GeoSource.ofUrl name url decode asBrowser extraHeaders).lookup family settings) :=
    fun name url decode asBrowser extraHeaders =>
      (agrees_fetchJson hsame url family settings asBrowser extraHeaders none).bind fun fields =>
        ((same_ofExcept (decode fields)).bind fun i => same_pure (some i)).agrees
  have hstandard : Agrees Fault.isOfSource h h' (s.lookup family settings) := by
    simp only [GeoSource.standard, List.mem_cons, List.not_mem_nil, or_false] at hs
    rcases hs with rfl | rfl | rfl | rfl
    · exact hlookup _ _ _ _ _
    · exact hlookup _ _ _ _ _
    · exact hlookup _ _ _ _ _
    · exact hlookup _ _ _ _ _
  exact (same_consult _).bind fun _ => (same_guarded hstandard).bind fun known => same_pure _

theorem AsnSource.same_ask {s : AsnSource} (hs : s ∈ AsnSource.standard) (ip family : String)
    (settings : Settings) : Same h h' (s.ask ip family settings) := by
  have hstandard : Agrees Fault.isOfSource h h' (s.lookup ip family settings) := by
    simp only [AsnSource.standard, List.mem_cons, List.not_mem_nil, or_false] at hs
    rcases hs with rfl | rfl
    · exact (agrees_fetchText hsame _ family settings false _ _).bind fun body =>
        (same_ofExcept (IpInfo.ofHackertarget ip body)).agrees
    · exact (agrees_fetchJson hsame _ family settings false [] _).bind fun fields =>
        ((same_ofExcept (IpInfo.ofIpapi ip fields)).bind fun i => same_pure (some i)).agrees
  exact (same_consult _).bind fun _ => (same_guarded hstandard).bind fun known => same_pure _

theorem same_askSources (families : List Family) (settings : Settings) :
    Same h h' (askSources families settings GeoSource.standard) := by
  refine same_all fun step hstep => ?_
  obtain ⟨family, -, hstep⟩ := List.mem_flatMap.1 hstep
  obtain ⟨s, hs, rfl⟩ := List.mem_map.1 hstep
  exact (GeoSource.same_ask hsame hs family.name settings).bind fun _ => same_pure _

theorem IpInfo.same_completeNetwork (i : IpInfo) (family : String) (settings : Settings) :
    Same h h' (i.completeNetwork family settings) := by
  rw [IpInfo.completeNetwork]
  split
  · exact same_pure _
  · refine (same_requireWorkers _).bind fun _ => Same.bind ?_ fun _ => same_pure _
    refine same_all fun step hstep => ?_
    obtain ⟨s, hs, rfl⟩ := List.mem_map.1 hstep
    exact AsnSource.same_ask hsame hs i.ip family settings

theorem same_completed (family : Family) (identity : Option IpInfo) (settings : Settings) :
    Same h h' (completed family identity settings AsnSource.standard) := by
  cases identity with
  | none => exact same_pure none
  | some i => exact (i.same_completeNetwork hsame family.name settings).bind fun _ => same_pure _

/-- Where the replies bring the same texts, a lookup gives the same and makes the same requests. -/
theorem same_lookUpIdentities (check : CheckType) (settings : Settings) :
    Same h h' (lookUpIdentities check settings) := by
  refine (same_requireWorkers _).bind fun _ => ?_
  refine (same_askSources hsame _ settings).bind fun answers => ?_
  refine (same_completed hsame .ipv4 _ settings).bind fun v4 => ?_
  exact (same_completed hsame .ipv6 _ settings).bind fun v6 => same_pure _

end

/-! ## Statuses -/

theorem isRefusal_iff {status : Int} :
    HttpSession.isRefusal status = true ↔ 400 ≤ status ∧ status < 600 := by
  rw [HttpSession.isRefusal, Bool.and_eq_true, decide_eq_true_eq, decide_eq_true_eq]

/-- Whether a host is another one with failed connections in place of some of the answers that have
such a status. -/
structure Host.WithFailures (Fails : Int → Prop) (h h' : Host) : Prop where
  same : { h' with http := h.http } = h
  reply : ∀ limit j key, h'.nextReply limit j key = h.nextReply limit j key ∨
    (∃ status reason body, Fails status ∧ h.nextReply limit j key = .answered status reason body) ∧
      ∃ reason, h'.nextReply limit j key = .failed reason

/-- Failed connections in place of refusals bring the same texts, which is none. -/
theorem Host.WithFailures.sameTexts {Fails : Int → Prop} {h h' : Host}
    (hfailures : h.WithFailures Fails h')
    (hrefusals : ∀ status, Fails status → 400 ≤ status ∧ status < 600) : h.SameTexts h' := by
  refine ⟨fun limit j key => ?_, by rw [← hfailures.same]⟩
  rcases hfailures.reply limit j key with
    heq | ⟨⟨status, reason, body, hfails, hreply⟩, reason', hreply'⟩
  · rw [heq]
  · have hnone : (HttpReply.answered status reason body).text? = .ok none := by
      rw [HttpReply.text?, if_pos (isRefusal_iff.2 (hrefusals status hfails))]
    rw [hreply, hreply', hnone]
    rfl

/-- What a source of identities answers that knows address, country and network. -/
def knownIdentity : String :=
  "\x7b\"ip\": \"203.0.113.7\", \"country\": \"US\", \"org\": \"AS13335 Cloudflare, Inc.\"\x7d"

/-- A host where one source of identities answers, with this status. -/
def answeringWith (status : Int) : Host where
  http := [("ipv4 http://ipinfo.io", [.answered status "" knownIdentity])]

theorem nextReply_answeringWith (status : Int) (limit : Binary64) (j : Journal) (key : String) :
    (answeringWith status).nextReply limit j key =
      if key = "ipv4 http://ipinfo.io" then .answered status "" knownIdentity
      else .failed "no route" := by
  by_cases hkey : key = "ipv4 http://ipinfo.io"
  · have hfound : Host.find (answeringWith status).http key =
        some [.answered status "" knownIdentity] := by rw [hkey]; rfl
    rw [Host.nextReply, hfound, if_pos hkey]
    simp [Host.scripted?, answeringWith]
  · have hmissing : Host.find (answeringWith status).http key = none := by
      rw [Host.find, answeringWith, List.lookup_cons, beq_false_of_ne hkey]
      rfl
    rw [Host.nextReply, hmissing, if_neg hkey]
    rfl

theorem nextReply_answeringWith_known (status : Int) (limit : Binary64) (j : Journal) :
    (answeringWith status).nextReply limit j (replyKey .ipv4 "http://ipinfo.io") =
      .answered status "" knownIdentity := by
  have hkey : replyKey .ipv4 "http://ipinfo.io" = "ipv4 http://ipinfo.io" := by decide
  rw [nextReply_answeringWith, if_pos hkey]

/-- Without that answer nobody answers. -/
theorem withFailures_answeringWith {Fails : Int → Prop} {status : Int} (hfails : Fails status) :
    (answeringWith status).WithFailures Fails {} where
  same := rfl
  reply limit j key := by
    rw [nextReply_answeringWith]
    split
    · exact .inr ⟨⟨_, _, _, hfails, rfl⟩, "no route", rfl⟩
    · exact .inl rfl

/-- The answer is read if its status is none of a refusal, and then decides the lookup. -/
theorem lookUpIdentities_answeringWith_ne {status : Int}
    (hstatus : ¬(400 ≤ status ∧ status < 600)) :
    ((lookUpIdentities .ipv4 {}).runFrom {} {}).1 ≠
      ((lookUpIdentities .ipv4 {}).runFrom (answeringWith status) {}).1 := by
  have hread : (answeringWith status).SameTexts (answeringWith 200) := by
    refine ⟨fun limit j key => ?_, rfl⟩
    rw [nextReply_answeringWith, nextReply_answeringWith]
    split
    · rw [HttpReply.text?, HttpReply.text?, if_neg (mt isRefusal_iff.1 hstatus), if_neg (by decide)]
    · rfl
  rw [same_lookUpIdentities hread]
  intro heq
  have hknown : (((lookUpIdentities .ipv4 {}).runFrom (answeringWith 200) {}).1.toOption.bind
      Identities.ipv4).isSome = true := by decide +kernel
  rw [← heq] at hknown
  revert hknown
  decide +kernel

/-- An answer with a status from 400 to 599 is a fault of fetching, of a text as of an object, and
any other answer is read as if its status were 200, those with a status of no success among them.
Therefore the answers that have a status of some set can be replaced by failed connections without a
change of any lookup, the requests that it makes included, exactly if the set holds no status but
these. -/
theorem failures_are_refusals (Fails : Int → Prop) :
    (∀ (family : Family) (url : String) (settings : Settings) (timeout : Option Binary64)
      (h : Host) (j : Journal) (status : Int) (reason body : String),
      h.nextReply (timeoutInForce timeout settings) j (replyKey family url) =
        .answered status reason body →
      (∀ asBrowser retries,
        ((fetchText url family.name settings asBrowser timeout retries).runFrom h j).1 =
          if 400 ≤ status ∧ status < 600 then .error (.fetch (.refused url status reason))
          else .ok body) ∧
      ∀ asBrowser extraHeaders,
        ((fetchJson url family.name settings asBrowser extraHeaders timeout).runFrom h j).1 =
          if 400 ≤ status ∧ status < 600 then .error (.fetch (.refused url status reason))
          else HttpReply.fields h.maxNesting url (.answered 200 reason body)) ∧
    ((∀ check settings h h' j, Host.WithFailures Fails h h' →
        (lookUpIdentities check settings).runFrom h' j =
          (lookUpIdentities check settings).runFrom h j) ↔
      ∀ status, Fails status → 400 ≤ status ∧ status < 600) := by
  refine ⟨fun family url settings timeout h j status reason body hreply => ?_, fun hunchanged => ?_,
    fun hrefusals check settings h h' j hfailures => ?_⟩
  · have hbody : HttpReply.body url (.answered status reason body) =
        if 400 ≤ status ∧ status < 600 then .error (.fetch (.refused url status reason))
        else .ok body := by
      rw [HttpReply.body]
      simp only [isRefusal_iff]
    refine ⟨fun asBrowser retries => ?_, fun asBrowser extraHeaders => ?_⟩
    · rw [(fetches_fetchText family url settings asBrowser timeout retries).result, hreply, hbody]
    · rw [(fetches_fetchJson family url settings asBrowser extraHeaders timeout).result, hreply,
        HttpReply.fields, hbody]
      split
      · rfl
      · rfl
  · intro status hfails
    by_contra hstatus
    have hsame := hunchanged .ipv4 {} (answeringWith status) {} {}
      (withFailures_answeringWith hfails)
    exact lookUpIdentities_answeringWith_ne hstatus (congrArg Prod.fst hsame)
  · exact (same_lookUpIdentities (hfailures.sameTexts hrefusals) check settings j).symm

/-- A text is not fetched from a host that has no such page, and its identities are what they are
without the host that is asked. -/
theorem failures_are_refusals_notFound :
    ((fetchText "http://ipinfo.io" "ipv4" {}).runFrom (answeringWith 404) {}).1 =
        .error (.fetch (.refused "http://ipinfo.io" 404 "")) ∧
      (lookUpIdentities .ipv4 {}).runFrom {} {} =
        (lookUpIdentities .ipv4 {}).runFrom (answeringWith 404) {} := by
  obtain ⟨hfetched, hunchanged⟩ := failures_are_refusals (· = 404)
  obtain ⟨htext, -⟩ := hfetched .ipv4 "http://ipinfo.io" {} none (answeringWith 404) {} 404 "" _
    (nextReply_answeringWith_known 404 _ {})
  refine ⟨htext false none, ?_⟩
  have hrefusals : ∀ status : Int, status = 404 → 400 ≤ status ∧ status < 600 := by
    rintro status rfl
    decide
  exact hunchanged.2 hrefusals .ipv4 {} (answeringWith 404) {} {} (withFailures_answeringWith rfl)

/-- An answer with a status that is none of success does not count as a failed connection: one with
status 300 is fetched, and tells an identity. -/
theorem not_failures_outside_success :
    ¬((∀ (url : String) (h : Host) (j : Journal) (status : Int) (reason body : String),
        ¬(200 ≤ status ∧ status < 300) →
        (∀ limit, h.nextReply limit j (replyKey .ipv4 url) = .answered status reason body) →
        ∃ cause, ((fetchText url "ipv4" {}).runFrom h j).1 = .error (.fetch cause)) ∨
      ∀ h h' j, Host.WithFailures (fun status => ¬(200 ≤ status ∧ status < 300)) h h' →
        ((lookUpIdentities .ipv4 {}).runFrom h' j).1 =
          ((lookUpIdentities .ipv4 {}).runFrom h j).1) := by
  rintro (hfails | hunchanged)
  · obtain ⟨cause, hfailed⟩ := hfails "http://ipinfo.io" (answeringWith 300) {} 300 "" _
      (by decide) fun limit => nextReply_answeringWith_known 300 limit {}
    have hfetched : ((fetchText "http://ipinfo.io" "ipv4" {}).runFrom (answeringWith 300)
        {}).1.toOption.isSome = true := by decide +kernel
    rw [hfailed] at hfetched
    exact nomatch hfetched
  · have hother : (fun status : Int => ¬(200 ≤ status ∧ status < 300)) 300 := by decide
    exact lookUpIdentities_answeringWith_ne (by decide)
      (hunchanged (answeringWith 300) {} {} (withFailures_answeringWith hother))

end HostReport
