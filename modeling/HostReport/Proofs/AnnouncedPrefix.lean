import HostReport.Bgp
import HostReport.Proofs.Http.Fetch
import HostReport.Proofs.Text.Scan
import HostReport.Proofs.Text.Search

/-!
# What the services tell of a prefix

Two services tell the prefix that announces an address, and the second is asked where the first
tells nothing.  What a service tells is a network of digits and points with a positive length, but
need not be a prefix: nothing bounds the length from above, and the network may be any text of
digits and points.  This holds whatever links the reader of pages finds in a page, and of a fault
with which it gives up.  `announcedPrefix_of_replies` says when the services give the first prefix
that one of them tells, and `not_announcedPrefix_firstPrefix` that they do not always.
-/

namespace HostReport.Bgp

open Text

/-! ## What a service tells -/

/-- What an answer of a service tells, in which the prefix is found in this way: a network and a
positive length, or nothing; nothing also if the service is not reached. -/
def told (url : String) (find : String → Except Fault String) (r : HttpReply) :
    Except Fault (Option (String × Int)) :=
  match r.body url with
  | .error f => if isOfService f then .ok none else .error f
  | .ok body => (find body).bind fun cidr => (splitCidr cidr).map fun p => p.filter (0 < ·.2)

/-- What the requests to the services have in common. -/
def session (settings : Settings) : HttpSession where
  family := .ipv4
  source := Family.ipv4.wildcard
  retry := {
    total := settings.httpRetries
    backoff := HttpSession.backoff
    statuses := HttpSession.retriedStatuses
    methods := HttpSession.retriedMethods }
  headers := (Headers.plain.update Headers.browser).update []

/-- The journal after a service was asked. -/
def noted (settings : Settings) (url : String) (j : Journal) : Journal :=
  (session settings).noted url timeout j

section

variable (settings : Settings) (url : String) (h : Host) (j : Journal)

theorem runFrom_fetchText :
    (fetchText url "ipv4" settings true (some timeout)).runFrom h j =
      ((h.nextReply timeout j (replyKey .ipv4 url)).body url, noted settings url j) := by
  have hcreate : HttpSession.create "ipv4" settings true [] none = .ok (session settings) := rfl
  have hzero : timeout.isZero = false := by decide +kernel
  have hlimit : timeoutInForce (some timeout) settings = timeout := by
    simp only [timeoutInForce, hzero, Bool.false_eq_true, if_false]
  rw [fetchText, hcreate, HostM.runFrom_bind_of_ok h j (HostM.runFrom_ofExcept h j _),
    runFrom_get, hlimit]
  rfl

theorem runFrom_askService (find : String → Except Fault String) :
    (askService settings url find).runFrom h j =
      (told url find (h.nextReply timeout j (replyKey .ipv4 url)), noted settings url j) := by
  have hattempt := HostM.runFrom_attempt h j (fetchText url "ipv4" settings true (some timeout))
  rw [runFrom_fetchText] at hattempt
  rw [askService, HostM.runFrom_bind_of_ok h j hattempt, told]
  cases (h.nextReply timeout j (replyKey .ipv4 url)).body url with
  | error f => by_cases hf : isOfService f <;> simp [hf]
  | ok body =>
    dsimp only
    cases hfind : find body with
    | error f =>
      rw [HostM.runFrom_bind, HostM.runFrom_ofExcept]
      rfl
    | ok cidr =>
      rw [HostM.runFrom_bind_of_ok h _ (HostM.runFrom_ofExcept h _ _)]
      cases hsplit : splitCidr cidr with
      | error f =>
        rw [HostM.runFrom_bind, HostM.runFrom_ofExcept]
        simp [Except.bind, Except.map, hsplit]
      | ok p =>
        rw [HostM.runFrom_bind_of_ok h _ (HostM.runFrom_ofExcept h _ _)]
        simp [Except.bind, Except.map, hsplit]

end

/-! ## Both services -/

/-- Where the record about an address is. -/
def recordUrl (ip : String) : String := s!"https://bgp.he.net/whois/ip/{ip}"

/-- Where the page about an address is. -/
def pageUrl (ip : String) : String := s!"https://bgp.tools/prefix/{ip}"

/-- What the record about an address tells. -/
def toldByRecord (h : Host) (j : Journal) (ip : String) : Except Fault (Option (String × Int)) :=
  told (recordUrl ip) (cidrOfRecord · h.maxNesting)
    (h.nextReply timeout j (replyKey .ipv4 (recordUrl ip)))

/-- What the page about an address tells, with the links that the reader of pages finds in it. -/
def toldByPage (links : String → Except Fault (List String)) (h : Host) (j : Journal)
    (ip : String) : Except Fault (Option (String × Int)) :=
  told (pageUrl ip) (cidrOfPage · links) (h.nextReply timeout j (replyKey .ipv4 (pageUrl ip)))

theorem pageUrl_ne_recordUrl (ip : String) : pageUrl ip ≠ recordUrl ip := by
  intro heq
  have hlength := congrArg String.length heq
  have hpage : (pageUrl ip).length = 25 + ip.length := String.length_append _ _
  have hrecord : (recordUrl ip).length = 28 + ip.length := String.length_append _ _
  omega

section

variable (links : String → Except Fault (List String)) (ip : String) (settings : Settings)
  (h : Host) (j : Journal)

/-- The record does not use up the reply for the page. -/
theorem nextReply_noted_recordUrl :
    h.nextReply timeout (noted settings (recordUrl ip) j) (replyKey .ipv4 (pageUrl ip)) =
      h.nextReply timeout j (replyKey .ipv4 (pageUrl ip)) := by
  have htaken : (noted settings (recordUrl ip) j).repliesTaken =
      j.repliesTaken ++ [replyKey .ipv4 (recordUrl ip)] := rfl
  refine h.nextReply_of_not_mem timeout htaken ?_
  rw [List.mem_singleton, replyKey_inj]
  exact fun hsame => pageUrl_ne_recordUrl ip hsame.2

/-- The page is asked where the record tells nothing. -/
theorem runFrom_announcedPrefix :
    (announcedPrefix ip settings links).runFrom h j =
      match toldByRecord h j ip with
      | .ok none =>
        (toldByPage links h j ip, noted settings (pageUrl ip) (noted settings (recordUrl ip) j))
      | answer => (answer, noted settings (recordUrl ip) j) := by
  have hrecord : (askService settings (recordUrl ip) (cidrOfRecord · h.maxNesting)).runFrom h j =
      (toldByRecord h j ip, noted settings (recordUrl ip) j) :=
    runFrom_askService settings (recordUrl ip) h j (cidrOfRecord · h.maxNesting)
  have hpage : (askService settings (pageUrl ip) (cidrOfPage · links)).runFrom h
        (noted settings (recordUrl ip) j) =
      (toldByPage links h j ip, noted settings (pageUrl ip) (noted settings (recordUrl ip) j)) := by
    rw [runFrom_askService, nextReply_noted_recordUrl]
    rfl
  have hservices : services ip links h.maxNesting =
      [(recordUrl ip, (cidrOfRecord · h.maxNesting)), (pageUrl ip, (cidrOfPage · links))] := rfl
  rw [announcedPrefix, HostM.runFrom_bind_of_ok h j (HostM.runFrom_read h j), hservices,
    firstAnswer, HostM.runFrom_bind, hrecord]
  cases toldByRecord h j ip with
  | error f => rfl
  | ok answer =>
    cases answer with
    | some p => rfl
    | none =>
      change (firstAnswer settings [(pageUrl ip, (cidrOfPage · links))]).runFrom h _ = _
      rw [firstAnswer, HostM.runFrom_bind, hpage]
      cases toldByPage links h j ip with
      | error f => rfl
      | ok answer => cases answer <;> rfl

end

/-! ## Prefixes -/

/-- A network in its usual text and a length that an IPv4 prefix can have. -/
def IsPrefix (p : String × Int) : Prop :=
  (Ipv4.ofText? p.1.toList).isSome = true ∧ 1 ≤ p.2 ∧ p.2 ≤ 32

instance (p : String × Int) : Decidable (IsPrefix p) := inferInstanceAs (Decidable (_ ∧ _))

/-- The prefix among what an answer tells; nothing if it tells anything else. -/
def prefixIn? : Except Fault (Option (String × Int)) → Option (String × Int)
  | .ok (some p) => if IsPrefix p then some p else none
  | _ => none

/-- Whether an answer tells a prefix, or else nothing. -/
def IsSound (t : Except Fault (Option (String × Int))) : Prop :=
  t = .ok none ∨ ∃ p, t = .ok (some p) ∧ IsPrefix p

theorem eq_ok_prefixIn?_iff (t : Except Fault (Option (String × Int))) :
    t = .ok (prefixIn? t) ↔ IsSound t := by
  rcases t with f | _ | p
  · simp [IsSound]
  · simp [IsSound, prefixIn?]
  · by_cases hp : IsPrefix p <;> simp [IsSound, prefixIn?, hp]

/-- The first prefix that the services tell. -/
def firstPrefix? (first second : Except Fault (Option (String × Int))) : Option (String × Int) :=
  (prefixIn? first).or (prefixIn? second)

theorem isPrefix_of_prefixIn?_eq_some {t : Except Fault (Option (String × Int))}
    {p : String × Int} (h : prefixIn? t = some p) : IsPrefix p := by
  rcases t with f | _ | q
  · exact nomatch h
  · exact nomatch h
  · by_cases hq : IsPrefix q
    · rw [prefixIn?, if_pos hq] at h
      exact Option.some.inj h ▸ hq
    · rw [prefixIn?, if_neg hq] at h
      exact nomatch h

/-- The services agree with their first prefix exactly if none that is asked tells anything but a
prefix or nothing. -/
theorem announcedPrefix_eq_firstPrefix?_iff (links : String → Except Fault (List String))
    (ip : String) (settings : Settings) (h : Host) (j : Journal) :
    ((announcedPrefix ip settings links).runFrom h j).1 =
        .ok (firstPrefix? (toldByRecord h j ip) (toldByPage links h j ip)) ↔
      IsSound (toldByRecord h j ip) ∧
        (toldByRecord h j ip = .ok none → IsSound (toldByPage links h j ip)) := by
  rw [runFrom_announcedPrefix, firstPrefix?]
  rcases toldByRecord h j ip with f | _ | p
  · simp [IsSound]
  · have hpage := eq_ok_prefixIn?_iff (toldByPage links h j ip)
    simpa [IsSound, prefixIn?] using hpage
  · by_cases hp : IsPrefix p
    · simp [IsSound, prefixIn?, hp]
    · have hnone : prefixIn? (.ok (some p)) = none := if_neg hp
      have hother : prefixIn? (toldByPage links h j ip) ≠ some p :=
        fun heq => hp (isPrefix_of_prefixIn?_eq_some heq)
      simp [IsSound, hnone, hp, hother.symm]

/-! ## What is told in any case -/

theorem isCidrChar_of_headedCidr {s rest cidr : List Char}
    (h : headedCidr s = some (cidr, rest)) : ∀ c ∈ cidr, isCidrChar c = true := by
  obtain ⟨_, t, -, h⟩ := Scan.exists_of_bind_eq_some h
  obtain ⟨_, t', -, h⟩ := Scan.exists_of_bind_eq_some h
  rw [Scan.run1_apply] at h
  split at h
  · exact nomatch h
  · cases h
    exact fun c hc => List.mem_takeWhile_imp hc

theorem isCidrChar_of_cidrOfRecord {maxNesting : Nat} {payload cidr : String}
    (h : cidrOfRecord payload maxNesting = .ok cidr) : ∀ c ∈ cidr.toList, isCidrChar c = true := by
  have hempty : ∀ c ∈ "".toList, isCidrChar c = true := fun c hc => absurd hc List.not_mem_nil
  rw [cidrOfRecord] at h
  split at h
  · exact nomatch h
  · cases h
    exact hempty
  · split at h
    · next record _ =>
      cases h
      rw [String.toList_ofList]
      cases hfound : Scan.findFirst headedCidr record.toList with
      | none => exact hempty
      | some cidr =>
        obtain ⟨t, rest, hread⟩ := Scan.exists_of_findFirst_eq_some hfound
        exact isCidrChar_of_headedCidr hread
    · cases h
      exact hempty

theorem isCidrChar_of_cidrOfLink {location cidr : String} (h : cidrOfLink location = some cidr) :
    ∀ c ∈ cidr.toList, isCidrChar c = true := by
  rw [cidrOfLink] at h
  split at h
  · split at h
    · next hcidr =>
      cases h
      rw [Bool.and_eq_true] at hcidr
      simpa using hcidr.2
    · exact nomatch h
  · exact nomatch h

theorem isCidrChar_of_cidrOfPage {links : String → Except Fault (List String)}
    {page cidr : String} (h : cidrOfPage page links = .ok cidr) :
    ∀ c ∈ cidr.toList, isCidrChar c = true := by
  cases hlinks : links page with
  | error f =>
    rw [cidrOfPage, hlinks] at h
    exact nomatch h
  | ok locations =>
    rw [cidrOfPage, hlinks] at h
    cases h
    cases hfound : locations.findSome? cidrOfLink with
    | none => exact fun c hc => absurd hc List.not_mem_nil
    | some cidr =>
      obtain ⟨location, -, hlink⟩ := List.exists_of_findSome?_eq_some hfound
      exact isCidrChar_of_cidrOfLink hlink

/-- A written prefix is split at its first slash, if digits stand behind it. -/
theorem splitCidr_eq_ok_some_iff {cidr network : String} {length : Int} :
    splitCidr cidr = .ok (some (network, length)) ↔
      ∃ digits, cut? '/' cidr.toList = some (network.toList, digits) ∧ isDigits digits = true ∧
        Numeral.readInt? digits = some length := by
  rw [splitCidr]
  rcases cut? '/' cidr.toList with _ | ⟨front, digits⟩
  · simp
  · by_cases hdigits : isDigits digits = true
    · cases hread : Numeral.readInt? digits with
      | none => simp [hdigits, hread]
      | some n =>
        have hfront : String.ofList front = network ↔ front = network.toList := by
          rw [← String.toList_inj, String.toList_ofList]
        simp [hdigits, hread, hfront, and_comm]
    · simp [hdigits]

theorem told_eq_ok_some_iff {url : String} {find : String → Except Fault String} {r : HttpReply}
    {p : String × Int} :
    told url find r = .ok (some p) ↔
      ∃ body cidr, r.body url = .ok body ∧ find body = .ok cidr ∧
        splitCidr cidr = .ok (some p) ∧ 0 < p.2 := by
  rw [told]
  cases r.body url with
  | error f => by_cases hf : isOfService f <;> simp [hf]
  | ok body =>
    cases hfind : find body with
    | error f => simp [hfind, Except.bind]
    | ok cidr =>
      cases hsplit : splitCidr cidr with
      | error f => simp [hfind, hsplit, Except.bind, Except.map]
      | ok answer =>
        simp [hfind, hsplit, Except.bind, Except.map, Option.filter_eq_some_iff]

/-- A network that is told is made of digits and points, and a length that is told is positive. -/
theorem plain_of_told {url : String} {find : String → Except Fault String} {r : HttpReply}
    (hfind : ∀ body cidr, find body = .ok cidr → ∀ c ∈ cidr.toList, isCidrChar c = true)
    {p : String × Int} (htold : told url find r = .ok (some p)) :
    (∀ c ∈ p.1.toList, c.isDigit = true ∨ c = '.') ∧ 1 ≤ p.2 := by
  obtain ⟨body, cidr, -, hcidr, hsplit, hpositive⟩ := told_eq_ok_some_iff.1 htold
  obtain ⟨digits, hcut, -, -⟩ := splitCidr_eq_ok_some_iff.1 hsplit
  obtain ⟨hchars, hslash⟩ := of_cut?_eq_some hcut
  refine ⟨fun c hc => ?_, hpositive⟩
  have hclass := hfind body cidr hcidr c (by rw [hchars]; exact List.mem_append_left _ hc)
  have hne : c ≠ '/' := fun h => hslash (h ▸ hc)
  simpa [isCidrChar, hne] using hclass

/-- Whatever links the reader of pages finds: the prefix is that of the first service that tells one
exactly if each service that is asked tells a prefix or nothing.  What is given in any case is a
network of digits and points with a positive length, and the page is asked exactly where the record
tells nothing. -/
theorem announcedPrefix_of_replies (links : String → Except Fault (List String)) (ip : String)
    (settings : Settings) (h : Host) (j : Journal) :
    (((announcedPrefix ip settings links).runFrom h j).1 =
        .ok (firstPrefix? (toldByRecord h j ip) (toldByPage links h j ip)) ↔
      IsSound (toldByRecord h j ip) ∧
        (toldByRecord h j ip = .ok none → IsSound (toldByPage links h j ip))) ∧
    (∀ p, ((announcedPrefix ip settings links).runFrom h j).1 = .ok (some p) →
      (∀ c ∈ p.1.toList, c.isDigit = true ∨ c = '.') ∧ 1 ≤ p.2) ∧
    ((announcedPrefix ip settings links).runFrom h j).2.requests.map (·.url) =
      j.requests.map (·.url) ++ recordUrl ip ::
        match toldByRecord h j ip with
        | .ok none => [pageUrl ip]
        | _ => [] := by
  refine ⟨announcedPrefix_eq_firstPrefix?_iff links ip settings h j, fun p hp => ?_, ?_⟩
  · rw [runFrom_announcedPrefix] at hp
    rcases htold : toldByRecord h j ip with f | _ | q
    · rw [htold] at hp
      exact nomatch hp
    · rw [htold] at hp
      exact plain_of_told (fun _ _ => isCidrChar_of_cidrOfPage) hp
    · rw [htold] at hp
      cases hp
      exact plain_of_told (fun _ _ => isCidrChar_of_cidrOfRecord) htold
  · rw [runFrom_announcedPrefix]
    rcases toldByRecord h j ip with f | _ | q
    · simp [noted, HttpSession.noted, HttpSession.request]
    · simp [noted, HttpSession.noted, HttpSession.request]
    · simp [noted, HttpSession.noted, HttpSession.request]

/-- A page that links to the prefix `1.1.1.0/24`. -/
def samplePage : String :=
  "<html><body><table><tr><td class=\"smallonmobile nowrap\"><a href=\"/prefix/1.1.1.0/24\">" ++
    "1.1.1.0/24</a></td></tr></table></body></html>"

/-- The links in `samplePage`; no other page is known. -/
def sampleLinks (page : String) : Except Fault (List String) :=
  .ok (if page = samplePage then ["/prefix/1.1.1.0/24"] else [])

/-- A host to which the services answer with this record and with `samplePage`. -/
def answering (record : String) : Host where
  http := [
    ("ipv4 https://bgp.he.net/whois/ip/1.1.1.1", [.answered 200 "OK" record]),
    ("ipv4 https://bgp.tools/prefix/1.1.1.1", [.answered 200 "OK" samplePage])]

/-- A record without a prefix. -/
def emptyRecord : String := "\x7b\"data\": \"no record\"\x7d"

/-- A record with a prefix of 99 bits. -/
def overlongRecord : String := "\x7b\"data\": \"CIDR: 1.1.1.0/99\"\x7d"

theorem announcedPrefix_of_replies_emptyRecord :
    IsSound (toldByRecord (answering emptyRecord) {} "1.1.1.1") ∧
      IsSound (toldByPage sampleLinks (answering emptyRecord) {} "1.1.1.1") ∧
      ((announcedPrefix "1.1.1.1" {} sampleLinks).runFrom (answering emptyRecord) {}).1 =
        .ok (some ("1.1.1.0", 24)) := by
  have hrecord : toldByRecord (answering emptyRecord) {} "1.1.1.1" = .ok none :=
    HostM.eq_ok_of_toOption (by decide +kernel)
  have hpage : toldByPage sampleLinks (answering emptyRecord) {} "1.1.1.1" =
      .ok (some ("1.1.1.0", 24)) :=
    HostM.eq_ok_of_toOption (by decide +kernel)
  have hsound : IsSound (toldByPage sampleLinks (answering emptyRecord) {} "1.1.1.1") :=
    .inr ⟨_, hpage, by decide⟩
  refine ⟨.inl hrecord, hsound, ?_⟩
  have hreplies := announcedPrefix_of_replies sampleLinks "1.1.1.1" {} (answering emptyRecord) {}
  have hfirst := hreplies.1.2 ⟨.inl hrecord, fun _ => hsound⟩
  rw [hfirst, hrecord, hpage]
  rfl

/-- A length that no prefix has is taken, although the other service tells the prefix. -/
theorem not_announcedPrefix_firstPrefix :
    ¬∀ (links : String → Except Fault (List String)) (ip : String) (settings : Settings) (h : Host)
      (j : Journal), ((announcedPrefix ip settings links).runFrom h j).1 =
        .ok (firstPrefix? (toldByRecord h j ip) (toldByPage links h j ip)) := by
  intro hall
  have hgiven := congrArg Except.toOption
    (hall sampleLinks "1.1.1.1" {} (answering overlongRecord) {})
  have hrun : ((announcedPrefix "1.1.1.1" {} sampleLinks).runFrom
      (answering overlongRecord) {}).1.toOption = some (some ("1.1.1.0", 99)) := by
    decide +kernel
  have hfirst : firstPrefix? (toldByRecord (answering overlongRecord) {} "1.1.1.1")
      (toldByPage sampleLinks (answering overlongRecord) {} "1.1.1.1") = some ("1.1.1.0", 24) := by
    decide +kernel
  rw [hrun, hfirst] at hgiven
  cases hgiven

end HostReport.Bgp
