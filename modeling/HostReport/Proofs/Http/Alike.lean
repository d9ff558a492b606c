import HostReport.Proofs.Http.Fetch

/-!
# Hosts whose replies bring the same texts

A reply to a request brings a text, or it brings none: a failed connection and a refusal differ only
in the fault of fetching that a fetch ends with, and any other fault is there in place of a reply.
Here two hosts are compared on which all replies bring the same texts, and texts nested equally deep
can be read.  A fetch then leaves the same
journal on both, and gives the same text or ends on both with a fault of fetching (`Agrees`); where
such faults are tolerated, what is made of the fetch is the same altogether (`Same`).
-/

namespace HostReport

variable {α β : Type}

/-! ## What a reply brings -/

namespace HttpReply

/-- The text that a reply brings, none if it is a failed connection or a refusal, or the fault that
is there in place of a reply. -/
def text? : HttpReply → Except Fault (Option String)
  | .raised f => .error f
  | .failed _ => .ok none
  | .answered status _ body => .ok (if HttpSession.isRefusal status then none else some body)

/-- A reply brings its text to every location that is asked, or a fault of fetching, or its own
fault. -/
theorem body_of_text? (url : String) (r : HttpReply) :
    match r.text? with
    | .ok (some text) => r.body url = .ok text
    | .ok none => ∃ cause, r.body url = .error (.fetch cause)
    | .error f => r.body url = .error f := by
  cases r with
  | raised f => rfl
  | failed reason => exact ⟨_, rfl⟩
  | answered status reason body =>
    by_cases hrefusal : HttpSession.isRefusal status
    · rw [text?, if_pos hrefusal]
      exact ⟨_, if_pos hrefusal⟩
    · rw [text?, if_neg hrefusal]
      exact if_neg hrefusal

end HttpReply

/-- Whether the replies of two hosts bring the same texts, whatever has been requested before, and
texts nested equally deep can be read. -/
structure Host.SameTexts (h h' : Host) : Prop where
  text? : ∀ limit j key, (h.nextReply limit j key).text? = (h'.nextReply limit j key).text?
  maxNesting : h.maxNesting = h'.maxNesting

/-! ## Steps that are the same on two hosts -/

namespace HostM

variable {h h' : Host} {tolerated : Fault → Bool}

/-- Whether a step is the same on two hosts, in what it gives and in the journal that it leaves. -/
def Same (h h' : Host) (step : HostM α) : Prop := ∀ j, step.runFrom h j = step.runFrom h' j

/-- Whether a step is the same on two hosts up to which of the tolerated faults it ends with. -/
def Agrees (tolerated : Fault → Bool) (h h' : Host) (step : HostM α) : Prop :=
  ∀ j, step.runFrom h j = step.runFrom h' j ∨
    ∃ f f' j', step.runFrom h j = (.error f, j') ∧ step.runFrom h' j = (.error f', j') ∧
      tolerated f = true ∧ tolerated f' = true

theorem same_pure (a : α) : Same h h' (pure a) := fun _ => rfl

theorem same_throw (f : Fault) : Same h h' (throw f : HostM α) := fun _ => rfl

theorem same_consult (c : Consultation) : Same h h' (consult c) := fun _ => rfl

theorem same_ofExcept (x : Except Fault α) : Same h h' (ofExcept x) := by
  intro j
  rw [runFrom_ofExcept, runFrom_ofExcept]

theorem Same.agrees {step : HostM α} (hstep : Same h h' step) : Agrees tolerated h h' step :=
  fun j => .inl (hstep j)

/-- Up to tolerated faults a sequence is the same on two hosts if both of its steps are. -/
theorem Agrees.bind {step : HostM α} {next : α → HostM β} (hstep : Agrees tolerated h h' step)
    (hnext : ∀ a, Agrees tolerated h h' (next a)) : Agrees tolerated h h' (step >>= next) := by
  intro j
  rw [runFrom_bind, runFrom_bind]
  rcases hstep j with heq | ⟨f, f', j', hrun, hrun', hf, hf'⟩
  · rw [heq]
    rcases step.runFrom h' j with ⟨f | a, j'⟩
    · exact .inl rfl
    · exact hnext a j'
  · rw [hrun, hrun']
    exact .inr ⟨f, f', j', rfl, rfl, hf, hf'⟩

theorem Same.bind {step : HostM α} {next : α → HostM β} (hstep : Same h h' step)
    (hnext : ∀ a, Same h h' (next a)) : Same h h' (step >>= next) := by
  intro j
  rw [runFrom_bind, runFrom_bind, hstep j]
  rcases step.runFrom h' j with ⟨f | a, j'⟩
  · rfl
  · exact hnext a j'

/-- Where the faults are tolerated up to which a step is the same, nothing is left to differ. -/
theorem Agrees.orElseOn {step otherwise : HostM α} (hstep : Agrees tolerated h h' step)
    (hotherwise : Same h h' otherwise) :
    Same h h' (HostM.orElseOn tolerated step otherwise) := by
  intro j
  rw [runFrom_orElseOn, runFrom_orElseOn]
  rcases hstep j with heq | ⟨f, f', j', hrun, hrun', hf, hf'⟩
  · rw [heq]
    rcases step.runFrom h' j with ⟨f | a, j'⟩
    · dsimp only
      rw [hotherwise j']
    · rfl
  · rw [hrun, hrun']
    dsimp only
    rw [if_pos hf, if_pos hf', hotherwise j']

theorem same_all {steps : List (HostM α)} (hsteps : ∀ step ∈ steps, Same h h' step) :
    Same h h' (all steps) := by
  intro j
  have houtcomes : ∀ j, outcomes h steps j = outcomes h' steps j := by
    induction steps with
    | nil => exact fun _ => rfl
    | cons step steps ih =>
      intro j
      have hrest := ih fun s hs => hsteps s (List.mem_cons_of_mem step hs)
      rw [outcomes, outcomes, hsteps step List.mem_cons_self j]
      simp only [hrest]
  rw [runFrom_all, runFrom_all, houtcomes]

end HostM

open HostM

/-! ## Fetches -/

section

variable {h h' : Host} (hsame : h.SameTexts h')

include hsame

/-- What a request gives is the same on both hosts up to the cause for which there is no text. -/
theorem agrees_get (s : HttpSession) (url : String) (timeout : Binary64) :
    Agrees Fault.isOfSource h h' (s.get url timeout) := by
  intro j
  have hbody := (h.nextReply timeout j (replyKey s.family url)).body_of_text? url
  have hbody' := (h'.nextReply timeout j (replyKey s.family url)).body_of_text? url
  rw [hsame.text? timeout j (replyKey s.family url)] at hbody
  rw [runFrom_get, runFrom_get]
  rcases htext : (h'.nextReply timeout j (replyKey s.family url)).text? with f | _ | text
  · simp only [htext] at hbody hbody'
    exact .inl (by rw [hbody, hbody'])
  · simp only [htext] at hbody hbody'
    obtain ⟨cause, hbody⟩ := hbody
    obtain ⟨cause', hbody'⟩ := hbody'
    exact .inr ⟨_, _, _, by rw [hbody], by rw [hbody'], rfl, rfl⟩
  · simp only [htext] at hbody hbody'
    exact .inl (by rw [hbody, hbody'])

theorem agrees_fetchText (url family : String) (settings : Settings) (asBrowser : Bool)
    (timeout : Option Binary64) (retries : Option Int) :
    Agrees Fault.isOfSource h h' (fetchText url family settings asBrowser timeout retries) :=
  (same_ofExcept _).agrees.bind fun s => agrees_get hsame s url _

theorem agrees_fetchJson (url family : String) (settings : Settings) (asBrowser : Bool)
    (extraHeaders : List (String × String)) (timeout : Option Binary64) :
    Agrees Fault.isOfSource h h'
      (fetchJson url family settings asBrowser extraHeaders timeout) := by
  refine (same_ofExcept _).agrees.bind fun s => (agrees_get hsame s url _).bind fun body => ?_
  -- what is made of a text depends on the host only by how deep it may be nested
  have hparse : Same h h' (Host.parseJson body) := fun j => by
    rw [Host.runFrom_parseJson, Host.runFrom_parseJson, hsame.maxNesting]
  refine (hparse.bind fun parsed => ?_).agrees
  split
  · exact same_pure _
  · exact same_throw _
  · exact same_throw _
  · exact same_throw _

end

end HostReport
