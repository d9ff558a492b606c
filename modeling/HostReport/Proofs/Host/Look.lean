import HostReport.Proofs.Host.Locality

/-!
# Steps that only look

Collectors look at a host.  Looking leaves nothing in the journal but which results of commands were
taken, the seconds waited, and the profile of a Mac once it was read: no request is made, no socket
is used and no source is asked.  What is outside of looking is the rest of the journal.

The predicate below says of a step all that collectors rely on, so that each step is gone through
once: by which faults it fails, that it leaves what is outside as it is, and, on a host whose facts
do not change, that it is local to every aspect but the conversation with servers.
-/

namespace HostReport

variable {α β : Type}

/-- A journal without what looking at a host leaves in it. -/
def Journal.outside (j : Journal) : Journal :=
  { j with commandsTaken := [], sleeps := 0, macProfile := none }

namespace HostM

/-- Whether a step only looks at a host, and fails by these faults alone. -/
structure LooksAt (h : Host) (fault : Fault → Prop) (step : HostM α) : Prop where
  fails : ∀ j f, (step.runFrom h j).1 = .error f → fault f
  outside : ∀ j, (step.runFrom h j).2.outside = j.outside
  isLocal : h.IsSteady → ∀ a, a ≠ .nat → LocalTo h a step

variable {h : Host} {fault : Fault → Prop}

theorem looksAt_pure (x : α) : LooksAt h fault (pure x) where
  fails _ _ herror := nomatch herror
  outside _ := rfl
  isLocal _ _ _ := localTo_pure x

theorem looksAt_throw {f : Fault} (hf : fault f) : LooksAt h fault (throw f : HostM α) where
  fails _ _ herror := Except.error.inj herror ▸ hf
  outside _ := rfl
  isLocal _ _ _ := localTo_throw f

/-- The next step is made only with what the first may give. -/
theorem LooksAt.bind {step : HostM α} {next : α → HostM β} (hstep : LooksAt h fault step)
    (hnext : ∀ x, step.MayGive h x → LooksAt h fault (next x)) :
    LooksAt h fault (step >>= next) where
  fails j f herror := by
    rcases runFrom_bind_cases h j step next with ⟨f', hfirst, hrun⟩ | ⟨x, hfirst, hrun⟩
    · rw [hrun] at herror
      cases herror
      exact hstep.fails j f hfirst
    · rw [hrun] at herror
      exact (hnext x ⟨j, hfirst⟩).fails _ f herror
  outside j := by
    rcases runFrom_bind_cases h j step next with ⟨f, -, hrun⟩ | ⟨x, hfirst, hrun⟩
    · rw [hrun]
      exact hstep.outside j
    · rw [hrun]
      exact ((hnext x ⟨j, hfirst⟩).outside _).trans (hstep.outside j)
  isLocal hsteady a ha :=
    (hstep.isLocal hsteady a ha).bind fun x hx => (hnext x hx).isLocal hsteady a ha

theorem LooksAt.map {step : HostM α} (hstep : LooksAt h fault step) (f : α → β) :
    LooksAt h fault (step >>= fun x => pure (f x)) :=
  hstep.bind fun _ _ => looksAt_pure _

theorem looksAt_read_bind {next : Host → HostM β} (hnext : LooksAt h fault (next h)) :
    LooksAt h fault (read >>= next) where
  fails := hnext.fails
  outside := hnext.outside
  isLocal hsteady a ha := localTo_read.bind fun _ ⟨_, hread⟩ =>
    Except.ok.inj hread ▸ hnext.isLocal hsteady a ha

/-- A step that gives the same from every journal and leaves no trace only looks. -/
theorem looksAt_of_run {step : HostM α} {r : Except Fault α}
    (hrun : ∀ j, step.runFrom h j = (r, j)) (hfault : ∀ f, r = .error f → fault f) :
    LooksAt h fault step where
  fails j f herror := by
    rw [hrun] at herror
    exact hfault f herror
  outside j := by rw [hrun]
  isLocal _ _ _ := localTo_of_result (fun j => by rw [hrun]) fun _ j => by rw [hrun]

theorem looksAt_ofExcept {r : Except Fault α} (hfault : ∀ f, r = .error f → fault f) :
    LooksAt h fault (ofExcept r) := by
  cases r with
  | error f => exact looksAt_throw (hfault f rfl)
  | ok x => exact looksAt_pure x

theorem looksAt_ofExcept_bind {r : Except Fault α} {next : α → HostM β}
    (hfault : ∀ f, r = .error f → fault f) (hnext : ∀ x, r = .ok x → LooksAt h fault (next x)) :
    LooksAt h fault (ofExcept r >>= next) := by
  refine (looksAt_ofExcept hfault).bind fun x hx => ?_
  obtain ⟨j, hgiven⟩ := hx
  rw [runFrom_ofExcept] at hgiven
  exact hnext x hgiven

/-- Of a step with another to fall back on, only faults that are not tolerated are left. -/
theorem LooksAt.orElseOn {step otherwise : HostM α} {tolerated : Fault → Bool}
    (hstep : LooksAt h (fun f => tolerated f = false → fault f) step)
    (hotherwise : LooksAt h fault otherwise) :
    LooksAt h fault (HostM.orElseOn tolerated step otherwise) where
  fails j f herror := by
    rcases runFrom_orElseOn_cases h j tolerated step otherwise with ⟨hrun, hleft⟩ | ⟨-, hrun⟩
    · rw [hrun] at herror
      exact hstep.fails j f herror (hleft f herror)
    · rw [hrun] at herror
      exact hotherwise.fails _ f herror
  outside j := by
    rcases runFrom_orElseOn_cases h j tolerated step otherwise with ⟨hrun, -⟩ | ⟨-, hrun⟩
    · rw [hrun]
      exact hstep.outside j
    · rw [hrun]
      exact (hotherwise.outside _).trans (hstep.outside j)
  isLocal hsteady a ha :=
    (hstep.isLocal hsteady a ha).orElseOn (hotherwise.isLocal hsteady a ha) tolerated

end HostM

open HostM

variable {h : Host} {fault : Fault → Prop}

/-! ## Facts of the host -/

namespace Host

theorem looksAt_readText (path : String) : LooksAt h fault (readText path) := by
  refine looksAt_read_bind ?_
  cases find h.files path with
  | none => exact looksAt_pure _
  | some bytes => exact looksAt_pure _

theorem looksAt_pathExists (path : String) : LooksAt h fault (pathExists path) :=
  looksAt_read_bind (looksAt_pure _)

theorem looksAt_realPath (path : String) : LooksAt h fault (realPath path) :=
  looksAt_read_bind (looksAt_pure _)

theorem looksAt_findTool (name : String) : LooksAt h fault (findTool name) := by
  refine looksAt_read_bind ?_
  split
  · split
    · exact looksAt_pure _
    · exact looksAt_pure _
  · exact looksAt_pure _

theorem looksAt_sleep : LooksAt h fault sleep where
  fails _ _ herror := nomatch herror
  outside _ := rfl
  isLocal _ _ _ := localTo_sleep

theorem looksAt_outputOf (words : List String) (withErrors : Bool) :
    LooksAt h fault (outputOf words withErrors) where
  fails j f herror := by
    rw [runFrom_outputOf_next] at herror
    exact nomatch herror
  outside j := by
    rw [runFrom_outputOf_next]
    rfl
  isLocal hsteady _ _ := localTo_outputOf hsteady words withErrors

end Host

/-! ## The hardware profile of a Mac -/

theorem exists_runFrom_macProfile (h : Host) (j : Journal) :
    ∃ p j', macProfile.runFrom h j = (.ok p, j') ∧ j'.outside = j.outside := by
  have hget : (get : HostM Journal).runFrom h j = (.ok j, j) := rfl
  rw [macProfile, runFrom_bind_of_ok h j hget]
  cases j.macProfile with
  | some p => exact ⟨p, j, rfl, rfl⟩
  | none =>
    rw [readMacProfile, bind_assoc, runFrom_bind_of_ok h j (Host.runFrom_outputOf_next _ _ j)]
    exact ⟨_, _, rfl, rfl⟩

theorem looksAt_macProfile : LooksAt h fault macProfile where
  fails j f herror := by
    obtain ⟨p, j', hrun, -⟩ := exists_runFrom_macProfile h j
    rw [hrun] at herror
    exact nomatch herror
  outside j := by
    obtain ⟨p, j', hrun, houtside⟩ := exists_runFrom_macProfile h j
    rw [hrun]
    exact houtside
  isLocal hsteady _ ha := localTo_macProfile hsteady ha

end HostReport
