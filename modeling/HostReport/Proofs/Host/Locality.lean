import HostReport.Platform.Kernel
import HostReport.Proofs.Report.Field
import HostReport.Proofs.Run

/-!
# Steps that keep to an aspect

Collectors share a journal, in which most of what they leave is never looked at again.  What is
looked at is the hardware profile of a Mac, which one collector keeps for the others, and what a
conversation with servers rests on: the clock, how many transaction ids were drawn, and which rounds
were taken.  On a host whose facts do not change the results of commands are no such thing, since
every answer of a script is the same.

A step is local to an aspect if all that it depends on in a journal is the view of this aspect, and
if it leaves the views of the others as they are.
-/

namespace HostReport

variable {α β : Type}

/-! ## Commands -/

namespace Host

variable {h : Host}

/-- The result of a command that comes next in its script. -/
def nextResult (h : Host) (j : Journal) (words : List String) : CommandResult :=
  ((find h.commands (" ".intercalate words)).bind fun script =>
    scripted? script (j.commandsTaken.count (" ".intercalate words))).getD .missing

/-- A command always has a result, which is taken. -/
theorem runFrom_runCommand_next (words : List String) (j : Journal) :
    (runCommand words).runFrom h j =
      (.ok (h.nextResult j words),
        { j with commandsTaken := j.commandsTaken ++ [" ".intercalate words] }) := by
  rw [runCommand, HostM.runFrom_bind_of_ok h j (HostM.runFrom_read h j),
    HostM.runFrom_bind_of_ok h j (HostM.runFrom_getModify h j _), nextResult]
  cases find h.commands (" ".intercalate words) with
  | none => rfl
  | some script => rfl

/-- The output of a command that comes next, if only an empty one. -/
def nextOutput (h : Host) (j : Journal) (words : List String) (withErrors : Bool := false) :
    String :=
  match h.nextResult j words with
  | .exited 0 output errors => if withErrors then output ++ errors else output
  | _ => ""

/-- A command always has an output. -/
theorem runFrom_outputOf_next (words : List String) (withErrors : Bool) (j : Journal) :
    (outputOf words withErrors).runFrom h j =
      (.ok (h.nextOutput j words withErrors),
        { j with commandsTaken := j.commandsTaken ++ [" ".intercalate words] }) := by
  rw [outputOf, HostM.runFrom_bind_of_ok h j (runFrom_runCommand_next words j), nextOutput]
  cases h.nextResult j words with
  | missing => rfl
  | stopped output => rfl
  | exited status output errors =>
    cases status with
    | negSucc n => rfl
    | ofNat n => cases n <;> rfl

/-- The output of a command depends on the earlier results of that command alone. -/
theorem nextOutput_of_not_mem {j j' : Journal} {keys words : List String} (withErrors : Bool)
    (htaken : j'.commandsTaken = j.commandsTaken ++ keys) (hkey : " ".intercalate words ∉ keys) :
    h.nextOutput j' words withErrors = h.nextOutput j words withErrors := by
  rw [nextOutput, nextOutput, nextResult, nextResult, htaken, List.count_append,
    List.count_eq_zero_of_not_mem hkey, Nat.add_zero]

end Host

/-! ## Hosts whose facts do not change -/

namespace Host

/-- Whether the answers of every script of commands are the same. -/
def IsSteady (h : Host) : Prop := ∀ e ∈ h.commands, ∀ r ∈ e.2, ∀ r' ∈ e.2, r = r'

instance (h : Host) : Decidable h.IsSteady :=
  inferInstanceAs (Decidable (∀ e ∈ h.commands, ∀ r ∈ e.2, ∀ r' ∈ e.2, r = r'))

/-- The result of a command, if its results are always the same. -/
def resultOf (h : Host) (words : List String) : CommandResult :=
  match find h.commands (" ".intercalate words) with
  | some script => (scripted? script 0).getD .missing
  | none => .missing

/-- The output of a command, if its results are always the same. -/
def steadyOutput (h : Host) (words : List String) (withErrors : Bool) : String :=
  match h.resultOf words with
  | .exited 0 output errors => if withErrors then output ++ errors else output
  | _ => ""

/-- The hardware profile, if the results of commands are always the same. -/
def profile (h : Host) : MacProfile :=
  let listing := h.steadyOutput ["system_profiler", "SPHardwareDataType"] false
  if containsWord "error" (lowercase listing) then [] else MacProfile.ofText listing

theorem scripted?_eq {script : List α} (hsame : ∀ r ∈ script, ∀ r' ∈ script, r = r') (m n : Nat) :
    scripted? script m = scripted? script n := by
  cases script with
  | nil => rfl
  | cons r script =>
    have hin : ∀ k, min k ((r :: script).length - 1) < (r :: script).length := by
      intro k
      rw [List.length_cons]
      omega
    rw [scripted?, scripted?, List.getElem?_eq_getElem (hin m), List.getElem?_eq_getElem (hin n)]
    exact congrArg some (hsame _ (List.getElem_mem _) _ (List.getElem_mem _))

/-- On a steady host the result of a command does not depend on how many were taken before. -/
theorem nextResult_of_isSteady {h : Host} (hsteady : h.IsSteady) (j : Journal)
    (words : List String) : h.nextResult j words = h.resultOf words := by
  rw [nextResult, resultOf]
  cases hscript : find h.commands (" ".intercalate words) with
  | none => rfl
  | some script =>
    obtain ⟨before, behind, hcommands, -⟩ := List.lookup_eq_some_iff.1 hscript
    have hmem : (" ".intercalate words, script) ∈ h.commands := by
      rw [hcommands]
      exact List.mem_append_right before List.mem_cons_self
    rw [Option.bind_some,
      scripted?_eq (hsteady _ hmem) (j.commandsTaken.count (" ".intercalate words)) 0]

theorem runFrom_outputOf {h : Host} (hsteady : h.IsSteady) (words : List String)
    (withErrors : Bool) (j : Journal) :
    (outputOf words withErrors).runFrom h j =
      (.ok (h.steadyOutput words withErrors),
        { j with commandsTaken := j.commandsTaken ++ [" ".intercalate words] }) := by
  rw [runFrom_outputOf_next, nextOutput, nextResult_of_isSteady hsteady]
  rfl

end Host

theorem runFrom_readMacProfile {h : Host} (hsteady : h.IsSteady) (j : Journal) :
    readMacProfile.runFrom h j =
      (.ok h.profile,
        { j with commandsTaken :=
            j.commandsTaken ++ [" ".intercalate ["system_profiler", "SPHardwareDataType"]] }) := by
  rw [readMacProfile, HostM.runFrom_bind_of_ok h j (Host.runFrom_outputOf hsteady _ _ j)]
  rfl

/-! ## What is looked at in a journal -/

/-- What a collector looks at in the journal, as a journal that holds nothing else. -/
def Aspect.view (h : Host) : Aspect → Journal → Journal
  | .nat, j =>
    { clock := j.clock, transactions := j.transactions, roundsTaken := j.roundsTaken }
  | _, j => { macProfile := some (j.macProfile.getD h.profile) }

theorem Aspect.view_of_ne_nat {b : Aspect} (hb : b ≠ .nat) (h : Host) (j : Journal) :
    b.view h j = { macProfile := some (j.macProfile.getD h.profile) } := by
  cases b with
  | nat => exact absurd rfl hb
  | _ => rfl

namespace HostM

/-- Whether all that a step depends on in a journal is the view of an aspect, and it leaves the
views of the others as they are. -/
structure LocalTo (h : Host) (a : Aspect) (step : HostM α) : Prop where
  same : ∀ j j', a.view h j = a.view h j' →
    (step.runFrom h j).1 = (step.runFrom h j').1 ∧
      a.view h (step.runFrom h j).2 = a.view h (step.runFrom h j').2
  kept : ∀ b, b ≠ a → ∀ j, b.view h (step.runFrom h j).2 = b.view h j

variable {h : Host} {a : Aspect}

/-- A step is local if the view tells what it gives and how it changes the view. -/
theorem localTo_of_view {step : HostM α} {r : Journal → Except Fault α} {change : Journal → Journal}
    (hresult : ∀ j, (step.runFrom h j).1 = r (a.view h j))
    (hchange : ∀ j, a.view h (step.runFrom h j).2 = change (a.view h j))
    (hkept : ∀ b, b ≠ a → ∀ j, b.view h (step.runFrom h j).2 = b.view h j) : LocalTo h a step where
  same j j' hj := ⟨by rw [hresult, hresult, hj], by rw [hchange, hchange, hj]⟩
  kept := hkept

/-- A step that gives the same from every journal and changes nothing in view is local. -/
theorem localTo_of_result {step : HostM α} {r : Except Fault α}
    (hresult : ∀ j, (step.runFrom h j).1 = r)
    (hview : ∀ b j, Aspect.view h b (step.runFrom h j).2 = b.view h j) : LocalTo h a step where
  same j j' hj := ⟨(hresult j).trans (hresult j').symm, by rw [hview, hview, hj]⟩
  kept b _ j := hview b j

theorem localTo_pure (x : α) : LocalTo h a (pure x) :=
  localTo_of_result (fun _ => rfl) fun _ _ => rfl

theorem localTo_throw (f : Fault) : LocalTo h a (throw f : HostM α) :=
  localTo_of_result (fun _ => rfl) fun _ _ => rfl

theorem localTo_read : LocalTo h a (read : HostM Host) :=
  localTo_of_result (fun _ => rfl) fun _ _ => rfl

theorem localTo_modify {f : Journal → Journal} (hf : ∀ b j, Aspect.view h b (f j) = b.view h j) :
    LocalTo h a (modify f : HostM PUnit) :=
  localTo_of_result (fun _ => rfl) hf

/-- The next step has to be local only for what the first may give. -/
theorem LocalTo.bind {step : HostM α} {next : α → HostM β} (hstep : LocalTo h a step)
    (hnext : ∀ x, step.MayGive h x → LocalTo h a (next x)) : LocalTo h a (step >>= next) where
  same j j' hj := by
    obtain ⟨hresult, hview⟩ := hstep.same j j' hj
    have hgiven : ∀ x, (step.runFrom h j).1 = .ok x → step.MayGive h x := fun _ hx => ⟨j, hx⟩
    rw [runFrom_bind, runFrom_bind]
    generalize step.runFrom h j = run at hresult hview hgiven ⊢
    generalize step.runFrom h j' = run' at hresult hview ⊢
    obtain ⟨r, k⟩ := run
    obtain ⟨r', k'⟩ := run'
    cases hresult
    cases r with
    | error f => exact ⟨rfl, hview⟩
    | ok x => exact (hnext x (hgiven x rfl)).same k k' hview
  kept b hb j := by
    have hfirst := hstep.kept b hb j
    have hgiven : ∀ x, (step.runFrom h j).1 = .ok x → step.MayGive h x := fun _ hx => ⟨j, hx⟩
    rw [runFrom_bind]
    generalize step.runFrom h j = run at hfirst hgiven ⊢
    obtain ⟨r, k⟩ := run
    cases r with
    | error f => exact hfirst
    | ok x => exact ((hnext x (hgiven x rfl)).kept b hb k).trans hfirst

theorem LocalTo.orElseOn {step otherwise : HostM α} (hstep : LocalTo h a step)
    (hotherwise : LocalTo h a otherwise) (tolerated : Fault → Bool) :
    LocalTo h a (HostM.orElseOn tolerated step otherwise) where
  same j j' hj := by
    obtain ⟨hresult, hview⟩ := hstep.same j j' hj
    rw [runFrom_orElseOn, runFrom_orElseOn]
    generalize step.runFrom h j = run at hresult hview ⊢
    generalize step.runFrom h j' = run' at hresult hview ⊢
    obtain ⟨r, k⟩ := run
    obtain ⟨r', k'⟩ := run'
    cases hresult
    cases r with
    | ok x => exact ⟨rfl, hview⟩
    | error f =>
      by_cases hf : tolerated f
      · simpa only [if_pos hf] using hotherwise.same k k' hview
      · simpa only [if_neg hf, true_and] using hview
  kept b hb j := by
    have hfirst := hstep.kept b hb j
    rw [runFrom_orElseOn]
    generalize step.runFrom h j = run at hfirst ⊢
    obtain ⟨r, k⟩ := run
    cases r with
    | ok x => exact hfirst
    | error f =>
      by_cases hf : tolerated f
      · simpa only [if_pos hf] using (hotherwise.kept b hb k).trans hfirst
      · simpa only [if_neg hf] using hfirst

theorem LocalTo.attempt {step : HostM α} (hstep : LocalTo h a step) :
    LocalTo h a (HostM.attempt step) where
  same j j' hj := by
    obtain ⟨hresult, hview⟩ := hstep.same j j' hj
    rw [runFrom_attempt, runFrom_attempt]
    exact ⟨congrArg Except.ok hresult, hview⟩
  kept b hb j := by
    rw [runFrom_attempt]
    exact hstep.kept b hb j

end HostM

/-! ## Facts of the host -/

namespace Host

variable {h : Host} {a : Aspect}

theorem localTo_sleep : HostM.LocalTo h a sleep :=
  HostM.localTo_modify fun b _ => by cases b <;> rfl

theorem localTo_outputOf (hsteady : h.IsSteady) (words : List String) (withErrors : Bool) :
    HostM.LocalTo h a (outputOf words withErrors) := by
  have hresult : ∀ j, ((outputOf words withErrors).runFrom h j).1 =
      .ok (h.steadyOutput words withErrors) := by
    intro j
    rw [runFrom_outputOf hsteady]
  refine HostM.localTo_of_result hresult fun b j => ?_
  rw [runFrom_outputOf hsteady]
  cases b <;> rfl

end Host

/-! ## The hardware profile of a Mac -/

theorem runFrom_macProfile {h : Host} (hsteady : h.IsSteady) (j : Journal) :
    ∃ j', macProfile.runFrom h j = (.ok (j.macProfile.getD h.profile), j') ∧
      ∀ b, Aspect.view h b j' = b.view h j := by
  have hget : (get : HostM Journal).runFrom h j = (.ok j, j) := rfl
  rw [macProfile, HostM.runFrom_bind_of_ok h j hget]
  cases hread : j.macProfile with
  | some p => exact ⟨j, rfl, fun _ => rfl⟩
  | none =>
    dsimp only
    rw [HostM.runFrom_bind_of_ok h j (runFrom_readMacProfile hsteady j),
      HostM.runFrom_bind_of_ok h _ (HostM.runFrom_modify h _ _), HostM.runFrom_pure]
    refine ⟨_, by rw [Option.getD_none], fun b => ?_⟩
    by_cases hb : b = .nat
    · rw [hb]
      rfl
    · rw [Aspect.view_of_ne_nat hb, Aspect.view_of_ne_nat hb, hread, Option.getD_some,
        Option.getD_none]

/-- The profile is what every aspect but the conversation with servers has in view. -/
theorem localTo_macProfile {h : Host} (hsteady : h.IsSteady) {a : Aspect} (ha : a ≠ .nat) :
    HostM.LocalTo h a macProfile where
  same j j' hj := by
    obtain ⟨k, hrun, hview⟩ := runFrom_macProfile hsteady j
    obtain ⟨k', hrun', hview'⟩ := runFrom_macProfile hsteady j'
    have hprofile : j.macProfile.getD h.profile = j'.macProfile.getD h.profile := by
      rw [Aspect.view_of_ne_nat ha, Aspect.view_of_ne_nat ha] at hj
      exact Option.some.inj (congrArg Journal.macProfile hj)
    rw [hrun, hrun', hview, hview', hprofile]
    exact ⟨rfl, hj⟩
  kept b _ j := by
    obtain ⟨k, hrun, hview⟩ := runFrom_macProfile hsteady j
    rw [hrun]
    exact hview b

end HostReport
