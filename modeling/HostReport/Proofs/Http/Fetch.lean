import HostReport.Http.Fetch
import HostReport.Proofs.Run

/-!
# What a fetch gives

A fetch makes one request and is decided by the reply to it.  Unless the time limit of the request
is refused, the reply comes from the script of the request's key, at the position that counts the
earlier requests with this key, so requests with other keys do not change it.  `Fetches` states this
of a step, and is kept by everything that only reads what was fetched; steps with different keys
therefore give the same in any journal that differs by the others' requests (`outcomes_of_fetches`).
-/

namespace HostReport

/-- The key under which replies are found. -/
def replyKey (family : Family) (url : String) : String := family.name ++ " " ++ url

theorem replyKey_inj {family family' : Family} {url url' : String} :
    replyKey family url = replyKey family' url' ↔ family = family' ∧ url = url' := by
  constructor
  · intro heq
    have hchars := congrArg String.toList heq
    simp only [replyKey, String.toList_append] at hchars
    cases family <;> cases family' <;> simp [Family.name] at hchars ⊢ <;>
      exact String.toList_inj.1 hchars
  · rintro ⟨rfl, rfl⟩
    rfl

/-- The reply to the next request with a time limit and a key. -/
def Host.nextReply (h : Host) (limit : Binary64) (j : Journal) (key : String) : HttpReply :=
  match h.requestRefusal limit with
  | some f => .raised f
  | none =>
    ((Host.find h.http key).bind fun script =>
      Host.scripted? script (j.repliesTaken.count key)).getD (.failed "no route")

/-- A reply depends on the earlier requests with its own key alone. -/
theorem Host.nextReply_of_not_mem (h : Host) (limit : Binary64) {j j' : Journal}
    {keys : List String} {key : String} (htaken : j'.repliesTaken = j.repliesTaken ++ keys)
    (hkey : key ∉ keys) : h.nextReply limit j' key = h.nextReply limit j key := by
  rw [nextReply, nextReply, htaken, List.count_append, List.count_eq_zero_of_not_mem hkey,
    Nat.add_zero]

/-! ## Replies -/

namespace HttpReply

/-- The text that a reply to a request at this location brings, or why there is none. -/
def body (url : String) : HttpReply → Except Fault String
  | .raised f => .error f
  | .failed reason => .error (.fetch (.unreachable url reason))
  | .answered status reason body =>
    if HttpSession.isRefusal status then .error (.fetch (.refused url status reason)) else .ok body

/-- The fields of the object that a reply brings, or why there are none, on a host that reads texts
nested so deeply. -/
def fields (maxNesting : Nat) (url : String) (r : HttpReply) :
    Except Fault (List (String × Json)) :=
  (r.body url).bind fun body =>
    match Json.parse body maxNesting with
    | .ok (.object fields) => .ok fields
    | .ok _ => .error (.fetch (.notObject url))
    | .error .malformed => .error (.fetch (.undecodable url))
    | .error .tooDeep => .error .tooDeep

/-- The value that a reply brings, if it is a JSON text. -/
def json? (maxNesting : Nat) (r : HttpReply) : Option (Except Json.ReadFault Json) :=
  match r with
  | .raised _ => none
  | .failed _ => none
  | .answered status _ body =>
    if HttpSession.isRefusal status then none else some (Json.parse body maxNesting)

end HttpReply

theorem Host.runFrom_parseJson (text : String) (h : Host) (j : Journal) :
    (parseJson text).runFrom h j = (.ok (Json.parse text h.maxNesting), j) := rfl

/-! ## Steps that make one request -/

/-- A value, or another one in place of a fault that is tolerated. -/
def tolerate {α : Type} (tolerated : Fault → Bool) (otherwise : α) : Except Fault α → Except Fault α
  | .ok a => .ok a
  | .error f => if tolerated f then .ok otherwise else .error f

/-- A step that makes a request with this time limit and key and is decided by the reply to it. -/
structure Fetches {α : Type} (step : HostM α) (limit : Binary64) (key : String)
    (f : Host → HttpReply → Except Fault α) : Prop where
  result : ∀ h j, (step.runFrom h j).1 = f h (h.nextReply limit j key)
  taken : ∀ h j, (step.runFrom h j).2.repliesTaken = j.repliesTaken ++ [key]

namespace Fetches

variable {α β : Type} {step : HostM α} {limit : Binary64} {key : String}
  {f : Host → HttpReply → Except Fault α}

/-- What is done with a value and makes no request of its own keeps a step a fetch. -/
theorem bind (hstep : Fetches step limit key f) {next : α → HostM β}
    {g : Host → α → Except Fault β} (hnext : ∀ a h j, (next a).runFrom h j = (g h a, j)) :
    Fetches (step >>= next) limit key fun h r => (f h r).bind (g h) where
  result h j := by
    rw [HostM.runFrom_bind, ← hstep.result h j]
    rcases step.runFrom h j with ⟨_ | a, j'⟩
    · rfl
    · exact congrArg Prod.fst (hnext a h j')
  taken h j := by
    rw [HostM.runFrom_bind, ← hstep.taken h j]
    rcases step.runFrom h j with ⟨_ | a, j'⟩
    · rfl
    · exact congrArg (fun p => p.2.repliesTaken) (hnext a h j')

/-- A step before it that makes no request keeps a step a fetch. -/
theorem after {first : HostM β} {b : β} (change : Journal → Journal)
    (hfirst : ∀ h j, first.runFrom h j = (.ok b, change j))
    (hchange : ∀ j, (change j).repliesTaken = j.repliesTaken) {next : β → HostM α}
    (hnext : Fetches (next b) limit key f) : Fetches (first >>= next) limit key f where
  result h j := by
    rw [HostM.runFrom_bind_of_ok h j (hfirst h j), hnext.result, Host.nextReply, hchange,
      Host.nextReply]
  taken h j := by rw [HostM.runFrom_bind_of_ok h j (hfirst h j), hnext.taken, hchange]

/-- Tolerating some faults keeps a step a fetch. -/
theorem orElseOn (hstep : Fetches step limit key f) (tolerated : Fault → Bool) (a : α) :
    Fetches (HostM.orElseOn tolerated step (pure a)) limit key fun h r =>
      tolerate tolerated a (f h r) where
  result h j := by
    rw [HostM.runFrom_orElseOn, ← hstep.result h j]
    rcases step.runFrom h j with ⟨e | b, j'⟩
    · by_cases ht : tolerated e <;> simp [tolerate, ht]
    · rfl
  taken h j := by
    rw [HostM.runFrom_orElseOn, ← hstep.taken h j]
    rcases step.runFrom h j with ⟨e | b, j'⟩
    · by_cases ht : tolerated e <;> simp [ht]
    · rfl

end Fetches

/-! ## The fetches -/

theorem Family.ofName_name (family : Family) : Family.ofName family.name = .ok family := by
  cases family <;> rfl

/-- What a session requests at a location. -/
def HttpSession.request (s : HttpSession) (url : String) (timeout : Binary64) : HttpRequest where
  family := s.family.name
  url := url
  isBrowser := s.headers.isBrowser
  referer := s.headers.valueOf "Referer"
  retries := s.retries
  timeout := timeout

/-- The journal after a request, in which it is noted together with the reply that it takes. -/
def HttpSession.noted (s : HttpSession) (url : String) (timeout : Binary64) (j : Journal) :
    Journal :=
  { j with
    requests := j.requests ++ [s.request url timeout]
    repliesTaken := j.repliesTaken ++ [replyKey s.family url] }

/-- A request takes the reply that comes next, and what it leaves in the journal does not depend on
the host. -/
theorem runFrom_reply (s : HttpSession) (url : String) (timeout : Binary64) (h : Host)
    (j : Journal) :
    (s.reply url timeout).runFrom h j =
      (.ok (h.nextReply timeout j (replyKey s.family url)), s.noted url timeout j) := by
  rw [HttpSession.reply, HostM.runFrom_bind_of_ok h j (HostM.runFrom_getModify h j _),
    HostM.runFrom_bind_of_ok h _ (HostM.runFrom_read h _), Host.nextReply, replyKey]
  cases h.requestRefusal timeout with
  | some f => rfl
  | none => cases Host.find h.http (s.family.name ++ " " ++ url) <;> rfl

/-- What is requested is the text of the reply that comes next, if it brings one. -/
theorem runFrom_get (s : HttpSession) (url : String) (timeout : Binary64) (h : Host)
    (j : Journal) :
    (s.get url timeout).runFrom h j =
      ((h.nextReply timeout j (replyKey s.family url)).body url, s.noted url timeout j) := by
  rw [HttpSession.get, HostM.runFrom_bind_of_ok h j (runFrom_reply s url timeout h j)]
  cases h.nextReply timeout j (replyKey s.family url) with
  | raised f => rfl
  | failed reason => rfl
  | answered status reason body =>
    by_cases hrefusal : HttpSession.isRefusal status <;> simp [HttpReply.body, hrefusal]

theorem fetches_get (s : HttpSession) (url : String) (timeout : Binary64) :
    Fetches (s.get url timeout) timeout (replyKey s.family url) fun _ => HttpReply.body url where
  result h j := by rw [runFrom_get]
  taken h j := by
    rw [runFrom_get]
    rfl

/-- The name of a family gives a session over the family. -/
theorem exists_create_name (family : Family) (settings : Settings) (asBrowser : Bool)
    (extraHeaders : List (String × String)) (retries : Option Int) :
    ∃ s, HttpSession.create family.name settings asBrowser extraHeaders retries = .ok s ∧
      s.family = family := by
  rw [HttpSession.create, family.ofName_name]
  exact ⟨_, rfl, rfl⟩

theorem fetches_fetchText (family : Family) (url : String) (settings : Settings)
    (asBrowser : Bool) (timeout : Option Binary64) (retries : Option Int) :
    Fetches (fetchText url family.name settings asBrowser timeout retries)
      (timeoutInForce timeout settings) (replyKey family url) fun _ => HttpReply.body url := by
  obtain ⟨s, hcreate, rfl⟩ := exists_create_name family settings asBrowser [] retries
  rw [fetchText, hcreate]
  exact .after id (fun h j => HostM.runFrom_ofExcept h j (.ok s)) (fun _ => rfl)
    (fetches_get s url _)

theorem fetches_fetchJson (family : Family) (url : String) (settings : Settings)
    (asBrowser : Bool) (extraHeaders : List (String × String)) (timeout : Option Binary64) :
    Fetches (fetchJson url family.name settings asBrowser extraHeaders timeout)
      (timeoutInForce timeout settings) (replyKey family url)
      fun h => HttpReply.fields h.maxNesting url := by
  obtain ⟨s, hcreate, rfl⟩ := exists_create_name family settings asBrowser extraHeaders none
  rw [fetchJson, hcreate]
  refine .after id (fun h j => HostM.runFrom_ofExcept h j (.ok s)) (fun _ => rfl) ?_
  refine (fetches_get s url _).bind fun body h j => ?_
  rw [HostM.runFrom_bind_of_ok h j (Host.runFrom_parseJson body h j)]
  cases hparse : Json.parse body h.maxNesting with
  | error e => cases e <;> rfl
  | ok v => cases v <;> rfl

/-! ## Several fetches -/

/-- Fetches with different keys, made one after another, give each what its reply gives in the
journal before all of them. -/
theorem outcomes_of_fetches {ι α : Type} {step : ι → HostM α} {limit : Binary64}
    {key : ι → String} {f : ι → Host → HttpReply → Except Fault α} {is : List ι}
    (hstep : ∀ i ∈ is, Fetches (step i) limit (key i) (f i)) (hkeys : (is.map key).Nodup) (h : Host)
    (j : Journal) :
    (HostM.outcomes h (is.map step) j).1 =
        is.map (fun i => f i h (h.nextReply limit j (key i))) ∧
      (HostM.outcomes h (is.map step) j).2.repliesTaken = j.repliesTaken ++ is.map key := by
  induction is generalizing j with
  | nil => exact ⟨rfl, (List.append_nil _).symm⟩
  | cons i is ih =>
    obtain ⟨hfresh, hkeys⟩ := List.nodup_cons.1 hkeys
    have hfirst := hstep i List.mem_cons_self
    obtain ⟨hresults, htaken⟩ :=
      ih (fun i hi => hstep i (List.mem_cons_of_mem _ hi)) hkeys ((step i).runFrom h j).2
    refine ⟨?_, ?_⟩
    · have hlater :
          is.map (fun k => f k h (h.nextReply limit ((step i).runFrom h j).2 (key k))) =
            is.map (fun k => f k h (h.nextReply limit j (key k))) := by
        refine List.map_congr_left fun k hk => ?_
        have hne : key k ∉ [key i] := fun heq =>
          hfresh (List.mem_singleton.1 heq ▸ List.mem_map_of_mem hk)
        rw [Host.nextReply_of_not_mem h limit (hfirst.taken h j) hne]
      rw [List.map_cons, List.map_cons, ← hfirst.result h j, ← hlater, ← hresults]
      rfl
    · rw [List.map_cons, List.map_cons, List.append_cons, ← hfirst.taken h j, ← htaken]
      rfl

section

variable {ι α : Type} {step : ι → HostM α} {limit : Binary64} {key : ι → String}
  {f : ι → Host → HttpReply → Except Fault α} {is : List ι}

theorem repliesTaken_all (hstep : ∀ i ∈ is, Fetches (step i) limit (key i) (f i))
    (hkeys : (is.map key).Nodup) (h : Host) (j : Journal) :
    ((HostM.all (is.map step)).runFrom h j).2.repliesTaken = j.repliesTaken ++ is.map key := by
  rw [HostM.runFrom_all]
  exact (outcomes_of_fetches hstep hkeys h j).2

/-- Where it is known which replies make a fetch fail and what it gives after all others, it is
known when all of the fetches give values, and which. -/
theorem all_eq_ok_iff (hstep : ∀ i ∈ is, Fetches (step i) limit (key i) (f i))
    (hkeys : (is.map key).Nodup) (h : Host) (Fails : ι → HttpReply → Prop)
    (value : ι → HttpReply → α) (hf : ∀ i r a, f i h r = .ok a ↔ ¬Fails i r ∧ a = value i r)
    (j : Journal) (as : List α) :
    ((HostM.all (is.map step)).runFrom h j).1 = .ok as ↔
      (∀ i ∈ is, ¬Fails i (h.nextReply limit j (key i))) ∧
        as = is.map fun i => value i (h.nextReply limit j (key i)) := by
  rw [HostM.runFrom_all, (outcomes_of_fetches hstep hkeys h j).1]
  exact HostM.collected_map_eq_ok_iff (fun i _ a => hf i (h.nextReply limit j (key i)) a) as

end

end HostReport
