import HostReport.Ipv6.Mask
import HostReport.Proofs.Ipv6.Scope
import HostReport.Proofs.Report.BlankLines

/-!
# The line with the prefix length

Sources of prefix lengths are asked in order, each from the journal that those before it leave,
until one tells a length of use.  A run over sources that fail by tolerated faults alone is
therefore that of asking the sources up to the first one whose outcome is a length of use, and of
nothing else (`runFrom_firstLength`).  However the sources fail, a length that is found is one of
use.
-/

namespace HostReport

open HostM

/-- Asking a source is a question, and gives what the source gives. -/
def PrefixSource.asked (s : PrefixSource) : HostM (Option Int) := do
  consult (.prefixLength s.name)
  s.length

theorem PrefixSource.runFrom_asked (s : PrefixSource) (h : Host) (j : Journal) :
    s.asked.runFrom h j = s.length.runFrom h (j.consulting (.prefixLength s.name)) := by
  rw [asked, runFrom_bind_of_ok h j (runFrom_consult h j _)]

namespace Ipv6

/-! ## Lengths of use -/

/-- The length of use that a source tells, if it tells one. -/
def lengthOfUse : Except Fault (Option Int) → Option Int
  | .ok (some n) => if 1 ≤ n ∧ n ≤ 128 then some n else none
  | _ => none

theorem lengthOfUse_ok (length : Option Int) :
    lengthOfUse (.ok length) = length.filter isValidLength := by
  cases length with
  | none => rfl
  | some n => simp only [lengthOfUse, Option.filter_some, isValidLength_iff]

/-! ## Asking one source after another -/

section

variable {h : Host} {j : Journal} {s : PrefixSource}

/-- A source that fails by a tolerated fault, if at all, counts for the length of use that it
tells. -/
theorem runFrom_askPrefixSource
    (htolerated : ∀ f, (s.asked.runFrom h j).1 = .error f → isOfPrefixSource f = true) :
    (askPrefixSource s).runFrom h j =
      (.ok (lengthOfUse (s.asked.runFrom h j).1), (s.asked.runFrom h j).2) := by
  rw [s.runFrom_asked] at htolerated ⊢
  rw [askPrefixSource, runFrom_bind_of_ok h j (runFrom_consult h j _), runFrom_bind,
    runFrom_orElseOn]
  rcases hasked : s.length.runFrom h (j.consulting (.prefixLength s.name)) with ⟨f | length, j'⟩
  · rw [hasked] at htolerated
    simp only [if_pos (htolerated f rfl)]
    rfl
  · rw [lengthOfUse_ok]
    rfl

/-- A fault that is not tolerated ends the asking. -/
theorem runFrom_askPrefixSource_of_error {f : Fault} (hasked : (s.asked.runFrom h j).1 = .error f)
    (hf : isOfPrefixSource f = false) :
    (askPrefixSource s).runFrom h j = (.error f, (s.asked.runFrom h j).2) := by
  rw [s.runFrom_asked] at hasked ⊢
  rw [askPrefixSource, runFrom_bind_of_ok h j (runFrom_consult h j _), runFrom_bind,
    runFrom_orElseOn]
  rcases hrun : s.length.runFrom h (j.consulting (.prefixLength s.name)) with ⟨r, j'⟩
  rw [hrun] at hasked
  obtain rfl : r = .error f := hasked
  simp only [hf]
  rfl

/-- The first source ends the search with a length of use, and hands on otherwise. -/
theorem runFrom_firstLength_cons (sources : List PrefixSource)
    (htolerated : ∀ f, (s.asked.runFrom h j).1 = .error f → isOfPrefixSource f = true) :
    (firstLength (s :: sources)).runFrom h j =
      match lengthOfUse (s.asked.runFrom h j).1 with
      | some n => (.ok n, (s.asked.runFrom h j).2)
      | none => (firstLength sources).runFrom h (s.asked.runFrom h j).2 := by
  rw [firstLength, runFrom_bind_of_ok h j (runFrom_askPrefixSource htolerated)]
  cases lengthOfUse (s.asked.runFrom h j).1 with
  | none => rfl
  | some n => rfl

end

/-- The length is the first one of use among what the sources tell, and the sources after the one
that tells it are not asked. -/
theorem runFrom_firstLength {h : Host} {sources : List PrefixSource}
    (htolerated : ∀ s ∈ sources, ∀ j f, (s.length.runFrom h j).1 = .error f →
      isOfPrefixSource f = true) (j : Journal) :
    let told := (outcomes h (sources.map PrefixSource.asked) j).1
    let asked := sources.take (told.findIdx (lengthOfUse · |>.isSome) + 1)
    (firstLength sources).runFrom h j =
      (.ok ((told.findSome? lengthOfUse).getD 128),
        (outcomes h (asked.map PrefixSource.asked) j).2) := by
  induction sources generalizing j with
  | nil => rfl
  | cons s sources ih =>
    have hfirst : ∀ f, (s.asked.runFrom h j).1 = .error f → isOfPrefixSource f = true := by
      rw [s.runFrom_asked]
      exact htolerated s List.mem_cons_self _
    have hrest := ih (fun s' hs' => htolerated s' (List.mem_cons_of_mem s hs'))
      (s.asked.runFrom h j).2
    dsimp only at hrest ⊢
    rw [runFrom_firstLength_cons sources hfirst, List.map_cons, outcomes_cons, List.findIdx_cons,
      List.findSome?_cons]
    cases htold : lengthOfUse (s.asked.runFrom h j).1 with
    | some n => rfl
    | none =>
      rw [hrest]
      simp only [Option.isSome_none, cond_false, List.take_succ_cons, List.map_cons, outcomes_cons]

/-- A length that is found is one of use, whatever the sources are. -/
theorem endsWith_firstLength {h : Host} (sources : List PrefixSource) :
    (firstLength sources).EndsWith h (fun n => 1 ≤ n ∧ n ≤ 128) fun _ => True := by
  induction sources with
  | nil => exact endsWith_pure (by decide)
  | cons s sources ih =>
    have hask : (askPrefixSource s).EndsWith h (fun length => ∀ n ∈ length, 1 ≤ n ∧ n ≤ 128)
        fun _ => True := by
      refine (endsWith_anyhow _).bind fun _ _ => (endsWith_anyhow _).bind fun length _ => ?_
      refine endsWith_pure fun n hn => ?_
      exact isValidLength_iff.1 (Option.mem_filter_iff.1 hn).2
    refine hask.bind fun length hlength => ?_
    cases length with
    | none => exact ih
    | some n => exact endsWith_pure (hlength n rfl)

/-! ## The line -/

/-- Whether a text is one line, with its end. -/
def IsLine (text : String) : Prop := ∃ cs, '\n' ∉ cs ∧ text.toList = cs ++ ['\n']

theorem newline_not_mem_toDigits (n : Nat) : '\n' ∉ Nat.toDigits 10 n := by
  intro hmem
  exact absurd (Nat.isDigit_of_mem_toDigits (by decide) (by decide) hmem) (by decide)

theorem newline_not_mem_toString (n : Int) : '\n' ∉ (toString n).toList := by
  cases n with
  | ofNat n =>
    rw [show toString (Int.ofNat n) = String.ofList (Nat.toDigits 10 n) from rfl,
      String.toList_ofList]
    exact newline_not_mem_toDigits n
  | negSucc n =>
    rw [show toString (Int.negSucc n) = "-" ++ String.ofList (Nat.toDigits 10 (n + 1)) from rfl,
      String.toList_append, List.mem_append, not_or]
    refine ⟨by decide, ?_⟩
    rw [String.toList_ofList]
    exact newline_not_mem_toDigits (n + 1)

theorem isLine_maskLine (n : Int) (language : Language) : IsLine (maskLine n language) := by
  refine ⟨(Label.ipv6Mask.head language).toList ++ '/' :: (toString n).toList, ?_, ?_⟩
  · rw [List.mem_append, List.mem_cons, not_or, not_or]
    exact ⟨Label.newline_not_mem_head _ language, by decide, newline_not_mem_toString n⟩
  · have hslash : (toString "/").toList = ['/'] := by decide
    rw [maskLine, Label.toList_line, String.toList_append, hslash]
    simp only [List.append_assoc, List.cons_append, List.nil_append]

section

variable {h : Host} {j : Journal} (language : Language)
  (sources : String → List PrefixSource) (interface : Option String)

theorem runFrom_findMaskLine_empty :
    (findMaskLine "" language sources interface).runFrom h j = (.ok "", j) := by
  rw [findMaskLine, if_pos (by decide), runFrom_pure]

/-- The line for the interface with this name. -/
def maskLineOn (name : String) : HostM String := do
  if name.isEmpty then return maskLine wholeAddress language
  consult (.interface name)
  return maskLine (← firstLength (sources name)) language

theorem findMaskLine_of_ne {address : String} (haddress : address ≠ "") :
    findMaskLine address language sources interface =
      interface.elim defaultInterface pure >>= maskLineOn language sources := by
  have hnonempty : address.isEmpty = false := by
    rw [Bool.eq_false_iff]
    exact mt String.isEmpty_iff.1 haddress
  rw [findMaskLine, hnonempty, if_neg (by decide)]
  cases interface with
  | none => rfl
  | some name => rfl

/-- Whether an interface may lead to the network. -/
def IsUsable (h : Host) (i : Interface) : Prop :=
  isWired i = true ∨ isLoopback i = false ∧ Host.find h.interfacesUp i.name = some true

theorem chooseInterface_eq_empty {h : Host} {table : List Interface}
    (hnone : ∀ i ∈ table, ¬IsUsable h i) : chooseInterface table h.interfacesUp = "" := by
  have hwired : table.find? isWired = none := by
    rw [List.find?_eq_none]
    exact fun i hi hwired => hnone i hi (.inl hwired)
  have hup : table.find?
      (fun i => !isLoopback i && (Host.find h.interfacesUp i.name).getD false) = none := by
    rw [List.find?_eq_none]
    intro i hi hup
    rw [Bool.and_eq_true, Bool.not_eq_true', Option.getD_eq_iff] at hup
    obtain ⟨hloopback, hfound | ⟨-, hfalse⟩⟩ := hup
    · exact hnone i hi (.inr ⟨hloopback, hfound⟩)
    · exact nomatch hfalse
  rw [chooseInterface, hwired]
  simp only [hup]
  rfl

/-- The interface that lengths are looked for on: the one given, or the one that leads to the
network. -/
def usedInterface (h : Host) (table : List Interface) (interface : Option String) : String :=
  interface.getD (chooseInterface table h.interfacesUp)

theorem runFrom_usedInterface {table : List Interface} (htable : h.interfaces = .ok table) :
    (interface.elim defaultInterface pure).runFrom h j =
      (.ok (usedInterface h table interface), j) := by
  cases interface with
  | some name => rfl
  | none =>
    rw [Option.elim_none, defaultInterface, runFrom_bind_of_ok h j (runFrom_read h j), htable]
    rfl

/-- Without an interface the whole address counts, and no source is asked. -/
theorem runFrom_maskLineOn_empty :
    (maskLineOn language sources "").runFrom h j = (.ok (maskLine 128 language), j) := by
  rw [maskLineOn, if_pos (by decide), runFrom_pure, wholeAddress]

theorem runFrom_maskLineOn {name : String} (hname : name ≠ "") :
    (maskLineOn language sources name).runFrom h j =
      ((maskLine · language) <$> firstLength (sources name)).runFrom h
        (j.consulting (.interface name)) := by
  have hnonempty : ¬name.isEmpty = true := mt String.isEmpty_iff.1 hname
  rw [maskLineOn, if_neg hnonempty, map_eq_pure_bind]
  rfl

end

end Ipv6

end HostReport
