import HostReport.Host.Socket

/-!
# What the steps of a run give

A step is a function of the host and of the journal before it: it gives a value or a fault, and the
journal after it, which is kept in both cases.  `HostM.runFrom` is that function, and each operation
that steps are written with has its equation here, so that a step is opened by rewriting and never
by unfolding the monad.
-/

namespace HostReport

variable {α β : Type}

/-- The journal with one more question. -/
def Journal.consulting (j : Journal) (c : Consultation) : Journal :=
  { j with consultations := j.consultations ++ [c] }

namespace HostM

/-- What a step gives on a host from a journal, and the journal that it leaves. -/
def runFrom (step : HostM α) (h : Host) (j : Journal) : Except Fault α × Journal :=
  ((step.run h).run).run j

variable (h : Host) (j : Journal)

/-! ## One equation for each operation -/

@[simp] theorem runFrom_pure (a : α) : (pure a : HostM α).runFrom h j = (.ok a, j) := rfl

@[simp] theorem runFrom_throw (f : Fault) :
    (throw f : HostM α).runFrom h j = (.error f, j) := rfl

@[simp] theorem runFrom_read : (read : HostM Host).runFrom h j = (.ok h, j) := rfl

@[simp] theorem runFrom_getModify (f : Journal → Journal) :
    (getModify f : HostM Journal).runFrom h j = (.ok j, f j) := rfl

@[simp] theorem runFrom_modify (f : Journal → Journal) :
    (modify f : HostM PUnit).runFrom h j = (.ok ⟨⟩, f j) := rfl

@[simp] theorem runFrom_consult (c : Consultation) :
    (consult c).runFrom h j = (.ok (), j.consulting c) := rfl

@[simp] theorem runFrom_ofExcept (x : Except Fault α) : (ofExcept x).runFrom h j = (x, j) := by
  cases x <;> rfl

/-- A fault ends a sequence of steps, and the journal stays as the fault found it. -/
theorem runFrom_bind (step : HostM α) (next : α → HostM β) :
    (step >>= next).runFrom h j =
      match step.runFrom h j with
      | (.ok a, j) => (next a).runFrom h j
      | (.error f, j) => (.error f, j) := by
  simp only [runFrom, ReaderT.run_bind, ExceptT.run_bind, StateT.run_bind]
  cases ((step.run h).run).run j with
  | mk r j => cases r <;> rfl

theorem runFrom_bind_of_ok {step : HostM α} {a : α} {j' : Journal}
    (hstep : step.runFrom h j = (.ok a, j')) (next : α → HostM β) :
    (step >>= next).runFrom h j = (next a).runFrom h j' := by
  rw [runFrom_bind, hstep]

/-- A sequence of two steps goes as far as the first one takes it. -/
theorem runFrom_bind_cases (step : HostM α) (next : α → HostM β) :
    (∃ f, (step.runFrom h j).1 = .error f ∧
      (step >>= next).runFrom h j = (.error f, (step.runFrom h j).2)) ∨
    ∃ a, (step.runFrom h j).1 = .ok a ∧
      (step >>= next).runFrom h j = (next a).runFrom h (step.runFrom h j).2 := by
  rw [runFrom_bind]
  rcases step.runFrom h j with ⟨f | a, j'⟩
  · exact .inl ⟨f, rfl, rfl⟩
  · exact .inr ⟨a, rfl, rfl⟩

/-- A sequence gives a value exactly if each of its steps does. -/
theorem runFrom_bind_eq_ok_iff (step : HostM α) (next : α → HostM β) (b : β) :
    ((step >>= next).runFrom h j).1 = .ok b ↔
      ∃ a, (step.runFrom h j).1 = .ok a ∧
        ((next a).runFrom h (step.runFrom h j).2).1 = .ok b := by
  rw [runFrom_bind]
  rcases step.runFrom h j with ⟨f | a, j'⟩
  · simp
  · simp

theorem runFrom_map (f : α → β) (step : HostM α) :
    (f <$> step).runFrom h j = ((step.runFrom h j).1.map f, (step.runFrom h j).2) := by
  rw [map_eq_pure_bind, runFrom_bind]
  cases step.runFrom h j with
  | mk r j => cases r <;> rfl

theorem map_eq_ok_iff {r : Except Fault α} {g : α → β} {b : β} :
    r.map g = .ok b ↔ ∃ a, r = .ok a ∧ g a = b := by
  cases r <;> simp [Except.map]

theorem map_eq_error_iff {r : Except Fault α} {g : α → β} {f : Fault} :
    r.map g = .error f ↔ r = .error f := by
  cases r <;> simp [Except.map]

theorem exists_ok_of_isSome {r : Except Fault α} (hgiven : r.toOption.isSome = true) :
    ∃ a, r = .ok a := by
  cases r with
  | ok a => exact ⟨a, rfl⟩
  | error f => exact nomatch hgiven

theorem eq_ok_of_toOption {ε : Type} {r : Except ε α} {a : α} (hgiven : r.toOption = some a) :
    r = .ok a := by
  cases r with
  | ok b => exact congrArg Except.ok (Option.some.inj hgiven)
  | error f => exact nomatch hgiven

theorem runFrom_map_ofExcept (f : α → β) (x : Except Fault α) :
    (f <$> ofExcept x).runFrom h j = (x.map f, j) := by
  rw [runFrom_map, runFrom_ofExcept]

theorem runFrom_tryCatch (step : HostM α) (handler : Fault → HostM α) :
    (tryCatch step handler).runFrom h j =
      match step.runFrom h j with
      | (.ok a, j) => (.ok a, j)
      | (.error f, j) => (handler f).runFrom h j := by
  cases hstep : step.runFrom h j with
  | mk r j' =>
    have hrun : StateT.run (step.run h) j = (r, j') := hstep
    change ((ExceptT.tryCatch (step.run h) fun f => (handler f).run h).run).run j = _
    simp only [ExceptT.tryCatch, ExceptT.run_mk, StateT.run_bind]
    rw [hrun]
    cases r <;> rfl

@[simp] theorem runFrom_attempt (step : HostM α) :
    (attempt step).runFrom h j = (.ok (step.runFrom h j).1, (step.runFrom h j).2) := by
  rw [attempt, runFrom_tryCatch, runFrom_map]
  cases step.runFrom h j with
  | mk r j => cases r <;> rfl

theorem runFrom_orElseOn (tolerated : Fault → Bool) (step otherwise : HostM α) :
    (orElseOn tolerated step otherwise).runFrom h j =
      match step.runFrom h j with
      | (.ok a, j) => (.ok a, j)
      | (.error f, j) => if tolerated f then otherwise.runFrom h j else (.error f, j) := by
  rw [orElseOn, runFrom_tryCatch]
  cases step.runFrom h j with
  | mk r j =>
    cases r with
    | ok a => rfl
    | error f => by_cases ht : tolerated f <;> simp [ht]

/-- A step with another to fall back on ends as the first of them does, or as the other does after a
tolerated fault. -/
theorem runFrom_orElseOn_cases (tolerated : Fault → Bool) (step otherwise : HostM α) :
    (orElseOn tolerated step otherwise).runFrom h j = step.runFrom h j ∧
      (∀ f, (step.runFrom h j).1 = .error f → tolerated f = false) ∨
    (∃ f, (step.runFrom h j).1 = .error f ∧ tolerated f = true) ∧
      (orElseOn tolerated step otherwise).runFrom h j =
        otherwise.runFrom h (step.runFrom h j).2 := by
  rw [runFrom_orElseOn]
  rcases step.runFrom h j with ⟨f | a, j'⟩
  · dsimp only
    cases hf : tolerated f with
    | false => exact .inl ⟨rfl, fun f' heq => Except.error.inj heq ▸ hf⟩
    | true => exact .inr ⟨⟨f, rfl, hf⟩, rfl⟩
  · exact .inl ⟨rfl, fun f heq => nomatch heq⟩

/-! ## How steps end -/

/-- Whether a step ends on a host, wherever it is made, with a value or with a fault of these. -/
structure EndsWith (step : HostM α) (h : Host) (value : α → Prop) (fault : Fault → Prop) :
    Prop where
  value_of_ok : ∀ j a, (step.runFrom h j).1 = .ok a → value a
  fault_of_error : ∀ j f, (step.runFrom h j).1 = .error f → fault f

/-- Whether a step gives a value on a host from some journal. -/
def MayGive (step : HostM α) (h : Host) (a : α) : Prop := ∃ j, (step.runFrom h j).1 = .ok a

/-- Whether a step that fails on a host does so with a fault of these. -/
def FailsBy (step : HostM α) (h : Host) (fault : Fault → Prop) : Prop :=
  step.EndsWith h (fun _ => True) fault

section

variable {h : Host} {value : α → Prop} {fault : Fault → Prop}

theorem endsWith_pure {a : α} (ha : value a) : (pure a : HostM α).EndsWith h value fault where
  value_of_ok _ _ hok := Except.ok.inj hok ▸ ha
  fault_of_error _ _ herror := nomatch herror

theorem endsWith_throw {f : Fault} (hf : fault f) :
    (throw f : HostM α).EndsWith h value fault where
  value_of_ok _ _ hok := nomatch hok
  fault_of_error _ _ herror := Except.error.inj herror ▸ hf

theorem failsBy_read : (read : HostM Host).FailsBy h fault where
  value_of_ok _ _ _ := trivial
  fault_of_error _ _ herror := nomatch herror

/-- What a step ends with is all that the next one has to rely on. -/
theorem EndsWith.bind {step : HostM α} {next : α → HostM β} {value' : β → Prop}
    (hstep : step.EndsWith h value fault)
    (hnext : ∀ a, value a → (next a).EndsWith h value' fault) :
    (step >>= next).EndsWith h value' fault where
  value_of_ok j b hok := by
    obtain ⟨a, hfirst, hrest⟩ := (runFrom_bind_eq_ok_iff h j step next b).1 hok
    exact (hnext a (hstep.value_of_ok j a hfirst)).value_of_ok _ b hrest
  fault_of_error j f herror := by
    rcases runFrom_bind_cases h j step next with ⟨f', hfirst, hrun⟩ | ⟨a, hfirst, hrun⟩
    · rw [hrun] at herror
      cases herror
      exact hstep.fault_of_error j f hfirst
    · rw [hrun] at herror
      exact (hnext a (hstep.value_of_ok j a hfirst)).fault_of_error _ f herror

theorem EndsWith.mono {step : HostM α} {value' : α → Prop} {fault' : Fault → Prop}
    (hstep : step.EndsWith h value fault) (hvalue : ∀ a, value a → value' a)
    (hfault : ∀ f, fault f → fault' f) : step.EndsWith h value' fault' where
  value_of_ok j a hok := hvalue a (hstep.value_of_ok j a hok)
  fault_of_error j f herror := hfault f (hstep.fault_of_error j f herror)

/-- Where no more is said than that a step ends, there is nothing to show. -/
theorem endsWith_anyhow (step : HostM α) : step.EndsWith h (fun _ => True) fun _ => True where
  value_of_ok _ _ _ := trivial
  fault_of_error _ _ _ := trivial

theorem EndsWith.orElseOn {step otherwise : HostM α} (hstep : step.EndsWith h value fault)
    (hotherwise : otherwise.EndsWith h value fault) (tolerated : Fault → Bool) :
    (HostM.orElseOn tolerated step otherwise).EndsWith h value fault where
  value_of_ok j a hok := by
    rcases runFrom_orElseOn_cases h j tolerated step otherwise with ⟨hrun, -⟩ | ⟨-, hrun⟩
    · rw [hrun] at hok
      exact hstep.value_of_ok j a hok
    · rw [hrun] at hok
      exact hotherwise.value_of_ok _ a hok
  fault_of_error j f herror := by
    rcases runFrom_orElseOn_cases h j tolerated step otherwise with ⟨hrun, -⟩ | ⟨-, hrun⟩
    · rw [hrun] at herror
      exact hstep.fault_of_error j f herror
    · rw [hrun] at herror
      exact hotherwise.fault_of_error _ f herror

end

/-! ## Steps that are all made -/

/-- What each of the steps gives, made one after another whatever the earlier ones gave. -/
def outcomes (h : Host) : List (HostM α) → Journal → List (Except Fault α) × Journal
  | [], j => ([], j)
  | step :: steps, j =>
    let (r, j) := step.runFrom h j
    let (rs, j) := outcomes h steps j
    (r :: rs, j)

theorem outcomes_cons (step : HostM α) (steps : List (HostM α)) :
    outcomes h (step :: steps) j =
      ((step.runFrom h j).1 :: (outcomes h steps (step.runFrom h j).2).1,
        (outcomes h steps (step.runFrom h j).2).2) := rfl

/-- Each of the steps is made from some journal. -/
theorem exists_mem_outcomes {steps : List (HostM α)} {step : HostM α} (hstep : step ∈ steps) :
    ∃ j', (step.runFrom h j').1 ∈ (outcomes h steps j).1 := by
  induction steps generalizing j with
  | nil => exact absurd hstep List.not_mem_nil
  | cons first steps ih =>
    rcases List.mem_cons.1 hstep with rfl | hstep
    · exact ⟨j, List.mem_cons_self⟩
    · obtain ⟨j', hmem⟩ := ih _ hstep
      exact ⟨j', List.mem_cons_of_mem _ hmem⟩

/-- What is given is given by one of the steps. -/
theorem exists_of_mem_outcomes {steps : List (HostM α)} {r : Except Fault α}
    (hr : r ∈ (outcomes h steps j).1) : ∃ step ∈ steps, ∃ j', (step.runFrom h j').1 = r := by
  induction steps generalizing j with
  | nil => exact absurd hr List.not_mem_nil
  | cons first steps ih =>
    rcases List.mem_cons.1 hr with rfl | hr
    · exact ⟨first, List.mem_cons_self, j, rfl⟩
    · obtain ⟨step, hstep, j', hrun⟩ := ih _ hr
      exact ⟨step, List.mem_cons_of_mem first hstep, j', hrun⟩

/-- The values, or the first fault among them. -/
def collected (rs : List (Except Fault α)) : Except Fault (List α) := rs.mapM id

theorem collected_cons (r : Except Fault α) (rs : List (Except Fault α)) :
    collected (r :: rs) = r.bind fun a => (collected rs).map (a :: ·) := by
  rw [collected, List.mapM_cons]
  cases r with
  | error f => rfl
  | ok a =>
    cases hrs : collected rs <;> rw [collected] at hrs <;> simp [hrs, bind, Except.bind, pure,
      Except.pure, Except.map]

theorem collected_map_ok (as : List α) : collected (as.map .ok) = .ok as := by
  induction as with
  | nil => rfl
  | cons a as ih =>
    rw [List.map_cons, collected_cons, ih]
    rfl

/-- There are values exactly if there is no fault. -/
theorem collected_eq_ok_iff {rs : List (Except Fault α)} {as : List α} :
    collected rs = .ok as ↔ rs = as.map .ok := by
  refine ⟨fun hok => ?_, fun heq => heq ▸ collected_map_ok as⟩
  induction rs generalizing as with
  | nil =>
    cases hok
    rfl
  | cons r rs ih =>
    rw [collected_cons] at hok
    cases r with
    | error f => exact nomatch hok
    | ok a =>
      cases hrs : collected rs with
      | error f =>
        rw [hrs] at hok
        exact nomatch hok
      | ok bs =>
        rw [hrs] at hok
        cases hok
        rw [ih hrs, List.map_cons]

theorem bind_ok_eq_ok_iff {P : Prop} {value : α} {r : Except Fault α}
    (hr : ∀ a, r = .ok a ↔ P ∧ a = value) (g : α → β) (b : β) :
    (r.bind fun a => .ok (g a)) = .ok b ↔ P ∧ b = g value := by
  cases r with
  | ok a =>
    obtain ⟨hP, rfl⟩ := (hr a).1 rfl
    simp [Except.bind, hP, eq_comm]
  | error f =>
    have hnot : ¬P := fun hP => nomatch (hr value).2 ⟨hP, rfl⟩
    simp [Except.bind, hnot]

/-- Where each fault and each value is known, so are the faults and the values of all. -/
theorem collected_map_eq_ok_iff {ι : Type} {is : List ι} {r : ι → Except Fault α} {P : ι → Prop}
    {value : ι → α} (hr : ∀ i ∈ is, ∀ a, r i = .ok a ↔ P i ∧ a = value i) (as : List α) :
    collected (is.map r) = .ok as ↔ (∀ i ∈ is, P i) ∧ as = is.map value := by
  rw [collected_eq_ok_iff]
  induction is generalizing as with
  | nil => simp [eq_comm]
  | cons i is ih =>
    have hfirst := hr i List.mem_cons_self
    have hrest := ih fun k hk => hr k (List.mem_cons_of_mem i hk)
    rw [List.map_cons, List.forall_mem_cons, List.map_cons]
    constructor
    · intro heq
      obtain _ | ⟨a, as⟩ := as
      · exact nomatch heq
      · obtain ⟨hhead, htail⟩ := List.cons.inj heq
        obtain ⟨hP, rfl⟩ := (hfirst a).1 hhead
        obtain ⟨hPs, rfl⟩ := (hrest as).1 htail
        exact ⟨⟨hP, hPs⟩, rfl⟩
    · rintro ⟨⟨hP, hPs⟩, rfl⟩
      rw [List.map_cons, (hfirst _).2 ⟨hP, rfl⟩, (hrest _).2 ⟨hPs, rfl⟩]

theorem runFrom_mapM_attempt (steps : List (HostM α)) :
    (steps.mapM attempt).runFrom h j = (.ok (outcomes h steps j).1, (outcomes h steps j).2) := by
  induction steps generalizing j with
  | nil => rfl
  | cons step steps ih =>
    rw [List.mapM_cons, runFrom_bind_of_ok h j (runFrom_attempt h j step),
      runFrom_bind_of_ok h _ (ih _)]
    rfl

theorem runFrom_mapM_ofExcept (rs : List (Except Fault α)) :
    (rs.mapM ofExcept).runFrom h j = (collected rs, j) := by
  induction rs with
  | nil => rfl
  | cons r rs ih =>
    rw [List.mapM_cons, collected_cons, runFrom_bind, runFrom_ofExcept]
    cases r with
    | error f => rfl
    | ok a =>
      simp only [Except.bind]
      rw [runFrom_bind, ih]
      cases collected rs <;> rfl

/-- All steps are made, and then the first fault counts. -/
theorem runFrom_all (steps : List (HostM α)) :
    (all steps).runFrom h j = (collected (outcomes h steps j).1, (outcomes h steps j).2) := by
  rw [all, runFrom_bind_of_ok h j (runFrom_mapM_attempt h j steps), runFrom_mapM_ofExcept]

/-- What relates the journals before and after each step relates those before and after all. -/
theorem rel_runFrom_all {R : Journal → Journal → Prop} (hrefl : ∀ j, R j j)
    (htrans : ∀ j j' j'', R j j' → R j' j'' → R j j'') {steps : List (HostM α)}
    (hsteps : ∀ step ∈ steps, ∀ j, R j (step.runFrom h j).2) : R j ((all steps).runFrom h j).2 := by
  rw [runFrom_all]
  induction steps generalizing j with
  | nil => exact hrefl j
  | cons step steps ih =>
    have hfirst := hsteps step List.mem_cons_self j
    exact htrans _ _ _ hfirst (ih _ fun s hs => hsteps s (List.mem_cons_of_mem step hs))

/-- What every step of a list gives, all of them give. -/
theorem endsWith_all {h : Host} {steps : List (HostM α)} {value : α → Prop}
    (hsteps : ∀ step ∈ steps, step.EndsWith h value fun _ => True) :
    (all steps).EndsWith h (fun as => ∀ a ∈ as, value a) fun _ => True where
  value_of_ok j as hok := by
    rw [runFrom_all, collected_eq_ok_iff] at hok
    induction steps generalizing j as with
    | nil =>
      have hnone : as = [] := List.map_eq_nil_iff.1 hok.symm
      simp [hnone]
    | cons step steps ih =>
      obtain _ | ⟨a, as⟩ := as
      · exact nomatch hok
      · obtain ⟨hfirst, hrest⟩ := List.cons.inj hok
        have hvalue := (hsteps step List.mem_cons_self).value_of_ok j a hfirst
        have hvalues := ih (fun s hs => hsteps s (List.mem_cons_of_mem step hs)) _ as hrest
        exact List.forall_mem_cons.2 ⟨hvalue, hvalues⟩
  fault_of_error _ _ _ := trivial

/-- Steps that give what they give from every journal that suits them, and leave a journal that
suits those behind them, do not disturb each other. -/
theorem outcomes_of_undisturbed {ι : Type} {step : ι → HostM α} {r : ι → Except Fault α}
    {Suits : ι → Journal → Prop} {is : List ι}
    (hresult : ∀ i ∈ is, ∀ j, Suits i j → ((step i).runFrom h j).1 = r i)
    (hkept : is.Pairwise fun i k =>
      ∀ j, Suits i j → Suits k j → Suits k ((step i).runFrom h j).2)
    (hsuits : ∀ i ∈ is, Suits i j) : (outcomes h (is.map step) j).1 = is.map r := by
  induction is generalizing j with
  | nil => rfl
  | cons i is ih =>
    obtain ⟨hfirst, hkept⟩ := List.pairwise_cons.1 hkept
    have hi := hsuits i List.mem_cons_self
    have hrest := ih ((step i).runFrom h j).2
      (fun k hk => hresult k (List.mem_cons_of_mem i hk)) hkept
      fun k hk => hfirst k hk j hi (hsuits k (List.mem_cons_of_mem i hk))
    rw [List.map_cons, List.map_cons, ← hrest, ← hresult i List.mem_cons_self j hi]
    rfl

/-- Steps that give their values wherever they are made all give them, in the order in which they
are made. -/
theorem runFrom_all_of_forall {ι : Type} {step : ι → HostM α} {value : ι → α} {is : List ι}
    (hsteps : ∀ i ∈ is, ∀ j, ((step i).runFrom h j).1 = .ok (value i)) :
    ((all (is.map step)).runFrom h j).1 = .ok (is.map value) := by
  -- every journal suits every step
  let suits : ι → Journal → Prop := fun _ _ => True
  have hkept : is.Pairwise fun i k =>
      ∀ j', suits i j' → suits k j' → suits k ((step i).runFrom h j').2 :=
    List.pairwise_of_forall fun _ _ _ _ _ => trivial
  have houtcomes := outcomes_of_undisturbed h j (fun i hi j' _ => hsteps i hi j') hkept
    fun _ _ => trivial
  rw [runFrom_all, houtcomes, collected_eq_ok_iff, List.map_map]
  rfl

end HostM

/-! ## Steps that use a socket -/

/-- The state of a run that holds a socket: its journal, and the queue of the socket. -/
structure SocketState where
  journal : Journal
  queue : List Arrival

/-- What a step gives on a host from a state, with the queue that it leaves; the queue is lost with
a fault. -/
def SocketM.runFrom (step : SocketM α) (h : Host) (s : SocketState) :
    Except Fault (α × List Arrival) × Journal :=
  (step.run s.queue).runFrom h s.journal

/-- Whether a step ends on a host with a value or with a fault of these, wherever it is made and
whatever the queue holds before it. -/
def SocketM.EndsWith (step : SocketM α) (h : Host) (value : α → Prop) (fault : Fault → Prop) :
    Prop :=
  ∀ queue, HostM.EndsWith (step.run queue) h (fun result => value result.1) fault

/-- Whether a step ends with a value or a fault and leaves a state behind, of which only the journal
counts after a fault. -/
def SocketM.Ends (step : SocketM α) (h : Host) (s : SocketState) (outcome : Except Fault α)
    (s' : SocketState) : Prop :=
  step.runFrom h s = (outcome.map fun a => (a, s'.queue), s'.journal)

/-- Whether a step gives a value and leaves a state behind. -/
def SocketM.Gives (step : SocketM α) (h : Host) (s : SocketState) (a : α) (s' : SocketState) :
    Prop :=
  step.Ends h s (.ok a) s'

namespace SocketM

variable {h : Host} {s s' s'' : SocketState}

theorem gives_pure (a : α) : (pure a : SocketM α).Gives h s a s := rfl

theorem Gives.bind_ends {step : SocketM α} {a : α} {next : α → SocketM β} {outcome : Except Fault β}
    (hstep : step.Gives h s a s') (hnext : (next a).Ends h s' outcome s'') :
    (step >>= next).Ends h s outcome s'' := by
  rw [Ends, runFrom, StateT.run_bind, HostM.runFrom_bind_of_ok h s.journal hstep]
  exact hnext

theorem Gives.bind {step : SocketM α} {a : α} {next : α → SocketM β} {b : β}
    (hstep : step.Gives h s a s') (hnext : (next a).Gives h s' b s'') :
    (step >>= next).Gives h s b s'' := hstep.bind_ends hnext

/-- A fault ends a sequence of steps. -/
theorem Ends.bind_of_error {step : SocketM α} {f : Fault} (hstep : step.Ends h s (.error f) s')
    (next : α → SocketM β) : (step >>= next).Ends h s (.error f) s' := by
  have hrun : (step.run s.queue).runFrom h s.journal = (.error f, s'.journal) := hstep
  rw [Ends, runFrom, StateT.run_bind, HostM.runFrom_bind, hrun]
  rfl

section

variable {value : α → Prop} {fault : Fault → Prop}

theorem endsWith_pure {a : α} (ha : value a) : (pure a : SocketM α).EndsWith h value fault :=
  fun _ => HostM.endsWith_pure ha

theorem EndsWith.bind {step : SocketM α} {next : α → SocketM β} {value' : β → Prop}
    (hstep : step.EndsWith h value fault)
    (hnext : ∀ a, value a → (next a).EndsWith h value' fault) :
    (step >>= next).EndsWith h value' fault := by
  intro queue
  rw [StateT.run_bind]
  exact (hstep queue).bind fun result hresult => hnext result.1 hresult result.2

/-- A step that uses no socket ends as it does without one. -/
theorem endsWith_lift {step : HostM α} (hstep : step.EndsWith h value fault) :
    (liftM step : SocketM α).EndsWith h value fault := by
  intro queue
  exact hstep.bind fun a ha => HostM.endsWith_pure ha

/-- A step with a socket of its own ends as it does on that socket. -/
theorem EndsWith.onQueue {step : SocketM α} (hstep : step.EndsWith h value fault)
    (queue : List Arrival) : HostM.EndsWith (step.run' queue) h value fault := by
  have hrun : step.run' queue = step.run queue >>= fun result => pure result.1 := by
    rw [StateT.run', map_eq_pure_bind]
    rfl
  rw [hrun]
  exact (hstep queue).bind fun result hresult => HostM.endsWith_pure hresult

end

/-- A run has one end. -/
theorem Ends.unique {step : SocketM α} {outcome outcome' : Except Fault α}
    (hends : step.Ends h s outcome s') (hends' : step.Ends h s outcome' s'') :
    outcome = outcome' ∧ s'.journal = s''.journal := by
  obtain ⟨hsame, hjournal⟩ := Prod.mk.inj (hends.symm.trans hends')
  refine ⟨?_, hjournal⟩
  cases outcome with
  | error f =>
    cases outcome' with
    | error f' => exact congrArg Except.error (Except.error.inj hsame)
    | ok b => exact nomatch hsame
  | ok a =>
    cases outcome' with
    | error f' => exact nomatch hsame
    | ok b => exact congrArg Except.ok (Prod.mk.inj (Except.ok.inj hsame)).1

end SocketM

end HostReport
