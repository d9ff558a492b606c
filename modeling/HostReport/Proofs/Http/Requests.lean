import HostReport.Proofs.Host.Look
import HostReport.Proofs.Http.Fetch

/-!
# Over which families requests are made

A step appends to the requests of a run.  Here a step is taken by the families over which the
requests are that it appends, whether it then fails or not; a step over no family makes none.
-/

namespace HostReport

variable {α β : Type}

/-- Whether a request is over one of these families. -/
def HttpRequest.IsOver (families : List Family) (r : HttpRequest) : Prop :=
  ∃ family ∈ families, r.family = family.name

/-- Whether all requests between two journals are over these families. -/
def Journal.RequestsOver (families : List Family) (j j' : Journal) : Prop :=
  ∃ made, j'.requests = j.requests ++ made ∧ ∀ r ∈ made, r.IsOver families

namespace Journal.RequestsOver

variable {families : List Family} {j j' j'' : Journal}

theorem of_eq (hrequests : j'.requests = j.requests) : RequestsOver families j j' :=
  ⟨[], by rw [hrequests, List.append_nil], fun _ hr => absurd hr List.not_mem_nil⟩

/-- Requests are outside of looking at a host. -/
theorem of_outside_eq (houtside : j'.outside = j.outside) : RequestsOver families j j' := by
  have hrequests : j'.outside.requests = j.outside.requests := by rw [houtside]
  exact of_eq hrequests

theorem trans (hfirst : RequestsOver families j j') (hrest : RequestsOver families j' j'') :
    RequestsOver families j j'' := by
  obtain ⟨made, hmade, hover⟩ := hfirst
  obtain ⟨made', hmade', hover'⟩ := hrest
  refine ⟨made ++ made', by rw [hmade', hmade, List.append_assoc], fun r hr => ?_⟩
  rcases List.mem_append.1 hr with hr | hr
  · exact hover r hr
  · exact hover' r hr

theorem mono {families' : List Family} (hover : RequestsOver families j j')
    (hsub : families ⊆ families') : RequestsOver families' j j' := by
  obtain ⟨made, hmade, hall⟩ := hover
  refine ⟨made, hmade, fun r hr => ?_⟩
  obtain ⟨family, hfamily, hname⟩ := hall r hr
  exact ⟨family, hsub hfamily, hname⟩

end Journal.RequestsOver

namespace HostM

/-- Whether all requests of a step on a host are over these families. -/
def RequestsOver (h : Host) (families : List Family) (step : HostM α) : Prop :=
  ∀ j, Journal.RequestsOver families j (step.runFrom h j).2

variable {h : Host} {families : List Family}

theorem requestsOver_of_eq {step : HostM α}
    (hrequests : ∀ j, (step.runFrom h j).2.requests = j.requests) : RequestsOver h families step :=
  fun j => .of_eq (hrequests j)

theorem requestsOver_pure (x : α) : RequestsOver h families (pure x) :=
  requestsOver_of_eq fun _ => rfl

theorem requestsOver_throw (f : Fault) : RequestsOver h families (throw f : HostM α) :=
  requestsOver_of_eq fun _ => rfl

theorem requestsOver_read : RequestsOver h families (read : HostM Host) :=
  requestsOver_of_eq fun _ => rfl

theorem requestsOver_ofExcept (r : Except Fault α) : RequestsOver h families (ofExcept r) := by
  cases r with
  | error f => exact requestsOver_throw f
  | ok x => exact requestsOver_pure x

theorem requestsOver_consult (c : Consultation) : RequestsOver h families (consult c) :=
  requestsOver_of_eq fun _ => rfl

theorem RequestsOver.mono {step : HostM α} {families' : List Family}
    (hstep : RequestsOver h families step) (hsub : families ⊆ families') :
    RequestsOver h families' step := fun j => (hstep j).mono hsub

/-- A step over one family is over all families among which it is. -/
theorem RequestsOver.of_mem {step : HostM α} {family : Family}
    (hstep : RequestsOver h [family] step) (hfamily : family ∈ families) :
    RequestsOver h families step :=
  hstep.mono (List.cons_subset.2 ⟨hfamily, List.nil_subset families⟩)

theorem RequestsOver.bind {step : HostM α} {next : α → HostM β}
    (hstep : RequestsOver h families step)
    (hnext : ∀ x, step.MayGive h x → RequestsOver h families (next x)) :
    RequestsOver h families (step >>= next) := by
  intro j
  rcases runFrom_bind_cases h j step next with ⟨f, -, hrun⟩ | ⟨x, hx, hrun⟩
  · rw [hrun]
    exact hstep j
  · rw [hrun]
    exact (hstep j).trans (hnext x ⟨j, hx⟩ _)

theorem RequestsOver.orElseOn {step otherwise : HostM α} (hstep : RequestsOver h families step)
    (hotherwise : RequestsOver h families otherwise) (tolerated : Fault → Bool) :
    RequestsOver h families (HostM.orElseOn tolerated step otherwise) := by
  intro j
  rcases runFrom_orElseOn_cases h j tolerated step otherwise with ⟨hrun, -⟩ | ⟨-, hrun⟩
  · rw [hrun]
    exact hstep j
  · rw [hrun]
    exact (hstep j).trans (hotherwise _)

theorem RequestsOver.attempt {step : HostM α} (hstep : RequestsOver h families step) :
    RequestsOver h families (HostM.attempt step) := by
  intro j
  rw [runFrom_attempt]
  exact hstep j

theorem requestsOver_all {steps : List (HostM α)}
    (hsteps : ∀ step ∈ steps, RequestsOver h families step) :
    RequestsOver h families (HostM.all steps) :=
  fun j => rel_runFrom_all h j (fun _ => .of_eq rfl) (fun _ _ _ => .trans) hsteps

end HostM

open HostM

variable {h : Host}

/-! ## Requests -/

/-- A request is over the family of its session. -/
theorem requestsOver_reply (s : HttpSession) (url : String) (timeout : Binary64) :
    RequestsOver h [s.family] (s.reply url timeout) := by
  intro j
  refine ⟨[s.request url timeout], by rw [runFrom_reply]; rfl, fun r hr => ?_⟩
  rw [List.mem_singleton.1 hr]
  exact ⟨s.family, List.mem_singleton_self s.family, rfl⟩

theorem requestsOver_get (s : HttpSession) (url : String) (timeout : Binary64) :
    RequestsOver h [s.family] (s.get url timeout) := by
  refine (requestsOver_reply s url timeout).bind fun r _ => ?_
  cases r with
  | raised f => exact requestsOver_throw f
  | failed reason => exact requestsOver_throw _
  | answered status reason body =>
    dsimp only
    split
    · exact requestsOver_throw _
    · exact requestsOver_pure _

section

variable {family : Family} {settings : Settings} {asBrowser : Bool}
  {extraHeaders : List (String × String)} {timeout : Option Binary64} {retries : Option Int}

/-- A session over a family by its name is over this family. -/
theorem family_of_create {s : HttpSession}
    (hs : HttpSession.create family.name settings asBrowser extraHeaders retries = .ok s) :
    s.family = family := by
  rw [HttpSession.create, Family.ofName_name] at hs
  exact (congrArg HttpSession.family (Except.ok.inj hs)).symm

theorem requestsOver_ofExcept_create_bind {next : HttpSession → HostM α}
    (hnext : ∀ s, RequestsOver h [s.family] (next s)) :
    RequestsOver h [family] (HostM.ofExcept (HttpSession.create family.name settings asBrowser
      extraHeaders retries) >>= next) := by
  refine (requestsOver_ofExcept _).bind fun s hs => ?_
  obtain ⟨j, hgiven⟩ := hs
  rw [runFrom_ofExcept] at hgiven
  have hsession := hnext s
  rw [family_of_create hgiven] at hsession
  exact hsession

theorem requestsOver_fetchText (url : String) :
    RequestsOver h [family] (fetchText url family.name settings asBrowser timeout retries) :=
  requestsOver_ofExcept_create_bind fun s => requestsOver_get s url _

theorem requestsOver_fetchJson (url : String) :
    RequestsOver h [family]
      (fetchJson url family.name settings asBrowser extraHeaders timeout) := by
  refine requestsOver_ofExcept_create_bind fun s => ?_
  refine (requestsOver_get s url _).bind fun body _ => ?_
  refine RequestsOver.bind (requestsOver_of_eq fun _ => rfl) fun parsed _ => ?_
  split
  · exact requestsOver_pure _
  · exact requestsOver_throw _
  · exact requestsOver_throw _
  · exact requestsOver_throw _

end

end HostReport
