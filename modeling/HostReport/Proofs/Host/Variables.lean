import HostReport.Proofs.Host.Look

/-!
# What a host tells next

Files and tools are told as they are, and asking for them leaves no trace.  A command answers by its
script, so a kernel variable has a value that is told next, and to ask for one variable leaves what
is told next of the others as it is (`nextValue_asking`).
-/

namespace HostReport

open HostM

/-- The journal after a tool was asked for a kernel variable. -/
def Journal.asking (j : Journal) (tool name : String) : Journal :=
  { j with commandsTaken := j.commandsTaken ++ [" ".intercalate [tool, "-n", name]] }

/-- The journal after a tool, if there is one, was asked for a kernel variable. -/
def Journal.askingBy (j : Journal) (sysctl : Option String) (name : String) : Journal :=
  sysctl.elim j fun tool => j.asking tool name

namespace Host

variable (h : Host) (j : Journal)

/-! ## Files and tools -/

/-- The text of a file, empty if there is none. -/
def textOf (path : String) : String :=
  match find h.files path with
  | some bytes => String.ofList (Text.plainNewlines (Text.Utf8.decode bytes))
  | none => ""

theorem runFrom_readText (path : String) :
    (readText path).runFrom h j = (.ok (h.textOf path), j) := by
  rw [readText, runFrom_bind_of_ok h j (runFrom_read h j), textOf]
  cases find h.files path <;> rfl

/-- The path of an executable. -/
def toolNamed (name : String) : Option String :=
  match find h.tools name with
  | some path => if path.isEmpty then findTool.inDirectories name h else some path
  | none => findTool.inDirectories name h

theorem runFrom_findTool (name : String) :
    (findTool name).runFrom h j = (.ok (h.toolNamed name), j) := by
  rw [findTool, runFrom_bind_of_ok h j (runFrom_read h j), toolNamed]
  cases find h.tools name with
  | none => rfl
  | some path =>
    dsimp only
    split
    · rfl
    · rfl

/-! ## Kernel variables -/

/-- What a tool prints next of a kernel variable. -/
def nextValue (tool name : String) : String := strip (h.nextOutput j [tool, "-n", name])

/-- The value of a kernel variable that a tool reads next. -/
def nextVariable (sysctl : Option String) (name : String) : String :=
  match sysctl with
  | none => ""
  | some tool =>
    if containsWord "cannot" (h.nextValue j tool name) then "" else h.nextValue j tool name

theorem runFrom_kernelVariable (name : String) :
    (kernelVariable name).runFrom h j =
      (.ok (h.nextValue j "sysctl" name), j.asking "sysctl" name) := by
  rw [kernelVariable, runFrom_bind_of_ok h j (runFrom_outputOf_next _ _ j)]
  rfl

theorem runFrom_kernelVariableBy (sysctl : Option String) (name : String) :
    (kernelVariableBy sysctl name).runFrom h j =
      (.ok (h.nextVariable j sysctl name), j.askingBy sysctl name) := by
  cases sysctl with
  | none => rfl
  | some tool =>
    rw [kernelVariableBy, runFrom_bind_of_ok h j (runFrom_outputOf_next _ _ j)]
    rfl

/-- To ask for a variable makes no difference to other commands. -/
theorem nextOutput_asking {tool name : String} {words : List String} (withErrors : Bool)
    (hne : " ".intercalate words ≠ " ".intercalate [tool, "-n", name]) :
    h.nextOutput (j.asking tool name) words withErrors = h.nextOutput j words withErrors :=
  nextOutput_of_not_mem withErrors rfl (by simpa using hne)

/-- To ask for a variable makes no difference to other variables. -/
theorem nextValue_asking {tool name name' : String} (hne : name' ≠ name) :
    h.nextValue (j.asking tool name) tool name' = h.nextValue j tool name' := by
  rw [nextValue, nextValue, nextOutput_asking]
  simpa [String.intercalate_cons_of_ne_nil, String.append_assoc] using hne

theorem nextVariable_askingBy (sysctl : Option String) {name name' : String} (hne : name' ≠ name) :
    h.nextVariable (j.askingBy sysctl name) sysctl name' = h.nextVariable j sysctl name' := by
  cases sysctl with
  | none => rfl
  | some tool =>
    rw [Journal.askingBy, Option.elim_some, nextVariable, nextVariable, nextValue_asking h j hne]

/-! ## The hardware profile of a Mac -/

/-- The command for a variable is another one than that for the profile. -/
theorem profile_ne_variable (name : String) :
    " ".intercalate ["sysctl", "-n", name] ≠
      " ".intercalate ["system_profiler", "SPHardwareDataType"] := by
  simp [String.intercalate_cons_of_ne_nil, String.ext_iff]

/-- The hardware profile that is told next. -/
def nextProfile : MacProfile :=
  j.macProfile.getD <|
    let listing := h.nextOutput j ["system_profiler", "SPHardwareDataType"]
    if containsWord "error" (lowercase listing) then [] else MacProfile.ofText listing

theorem exists_runFrom_macProfile_next :
    ∃ j', macProfile.runFrom h j = (.ok (h.nextProfile j), j') ∧
      ∀ name, h.nextValue j' "sysctl" name = h.nextValue j "sysctl" name := by
  have hget : (get : HostM Journal).runFrom h j = (.ok j, j) := rfl
  rw [macProfile, runFrom_bind_of_ok h j hget, nextProfile]
  cases j.macProfile with
  | some p => exact ⟨j, rfl, fun _ => rfl⟩
  | none =>
    rw [readMacProfile, bind_assoc, runFrom_bind_of_ok h j (runFrom_outputOf_next _ _ j),
      pure_bind, Option.getD_none]
    generalize (if containsWord "error" (lowercase _) then [] else MacProfile.ofText _) = profile
    refine ⟨_, rfl, fun name => ?_⟩
    have hother : " ".intercalate ["sysctl", "-n", name] ∉
        [" ".intercalate ["system_profiler", "SPHardwareDataType"]] := by
      simpa using profile_ne_variable name
    rw [nextValue, nextValue, nextOutput_of_not_mem false rfl hother]

/-- To ask for a variable makes no difference to the profile. -/
theorem nextProfile_asking (name : String) :
    h.nextProfile (j.asking "sysctl" name) = h.nextProfile j := by
  rw [nextProfile, nextProfile, nextOutput_asking h j false (profile_ne_variable name).symm]
  rfl

end Host

end HostReport
