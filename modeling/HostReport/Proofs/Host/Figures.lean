import HostReport.Collector.Cpu
import HostReport.Collector.Disk
import HostReport.Collector.Identity
import HostReport.Collector.Memory
import HostReport.Proofs.Number.Range
import HostReport.Proofs.Run

/-!
# Figures that cannot be shown

What a host tells is written with texts, and most of what is no text or no number is a fault that
ends one collector alone.  Two kinds of facts are not: a figure that exceeds every double when it is
divided, since what is out of range is no fault of a collector, and a member of a management row
that should be a text and counts as something else.

This module says which figures are meant, and by which faults each way of writing them fails.  A
figure is out of range only from `2 ^ 1024 - 2 ^ 970` units on, but nothing keeps the texts that
commands print from holding such figures.
-/

namespace HostReport

open Binary64 (beyond)

variable {α β : Type} {fault : Fault → Prop} {f : Fault}

/-! ## Values that may be faults -/

/-- Whether a value, if it is a fault, is one of these. -/
def FailsOnly (x : Except Fault α) (fault : Fault → Prop) : Prop := ∀ f, x = .error f → fault f

theorem failsOnly_ok (a : α) : FailsOnly (.ok a) fault := fun _ heq => nomatch heq

theorem failsOnly_error (hf : fault f) : FailsOnly (.error f : Except Fault α) fault :=
  fun _ heq => Except.error.inj heq ▸ hf

theorem bind_eq_ok_iff {x : Except Fault α} {next : α → Except Fault β} {b : β} :
    (x >>= next) = .ok b ↔ ∃ a, x = .ok a ∧ next a = .ok b := by
  cases x with
  | error f =>
    refine iff_of_false nofun ?_
    rintro ⟨a, heq, -⟩
    exact nomatch heq
  | ok a =>
    refine ⟨fun hok => ⟨a, rfl, hok⟩, ?_⟩
    rintro ⟨a', heq, hok⟩
    exact Except.ok.inj heq ▸ hok

theorem FailsOnly.bind {x : Except Fault α} {next : α → Except Fault β} (hx : FailsOnly x fault)
    (hnext : ∀ a, x = .ok a → FailsOnly (next a) fault) : FailsOnly (x >>= next) fault := by
  cases x with
  | error f => exact failsOnly_error (hx f rfl)
  | ok a => exact hnext a rfl

theorem failsOnly_mapM {xs : List α} {g : α → Except Fault β}
    (hg : ∀ x ∈ xs, FailsOnly (g x) fault) : FailsOnly (xs.mapM g) fault := by
  induction xs with
  | nil => exact failsOnly_ok []
  | cons x xs ih =>
    rw [List.mapM_cons]
    refine (hg x List.mem_cons_self).bind fun _ _ => ?_
    exact (ih fun y hy => hg y (List.mem_cons_of_mem x hy)).bind fun _ _ => failsOnly_ok _

/-! ## Sums and differences -/

namespace Quantity

theorem failsOnly_toDouble (q : Quantity) : FailsOnly q.toDouble (· = .outOfRange) := by
  cases q with
  | double x => exact failsOnly_ok x
  | whole n =>
    rw [toDouble]
    cases Binary64.ofInt? n with
    | some x => exact failsOnly_ok x
    | none => exact failsOnly_error rfl

theorem failsOnly_onDoubles (g : Binary64 → Binary64 → Quantity) (q r : Quantity) :
    FailsOnly (do return g (← q.toDouble) (← r.toDouble)) (· = .outOfRange) :=
  (failsOnly_toDouble q).bind fun _ _ => (failsOnly_toDouble r).bind fun _ _ => failsOnly_ok _

theorem failsOnly_add (q r : Quantity) : FailsOnly (q.add r) (· = .outOfRange) := by
  rw [add.eq_def]
  split
  · exact failsOnly_ok _
  · exact failsOnly_onDoubles (fun x y => .double (x + y)) q r

theorem failsOnly_sub (q r : Quantity) : FailsOnly (q.sub r) (· = .outOfRange) := by
  rw [sub.eq_def]
  split
  · exact failsOnly_ok _
  · exact failsOnly_onDoubles (fun x y => .double (x - y)) q r

end Quantity

theorem Usage.failsOnly_add (u v : Usage) : FailsOnly (u.add v) (· = .outOfRange) :=
  (Quantity.failsOnly_add _ _).bind fun _ _ =>
    (Quantity.failsOnly_add _ _).bind fun _ _ => failsOnly_ok _

theorem Platform.failsOnly_doubleLoads (loads : Loads) :
    FailsOnly (doubleLoads loads) (· = .outOfRange) :=
  (Quantity.failsOnly_toDouble _).bind fun _ _ => (Quantity.failsOnly_toDouble _).bind fun _ _ =>
    (Quantity.failsOnly_toDouble _).bind fun _ _ => failsOnly_ok _

/-! ## Sizes -/

/-- Whether a number of bytes has a size in megabytes or gigabytes; a double always has one. -/
def IsWritableSize : Quantity → Prop
  | .whole n => -(beyond * megabyte : Int) < n ∧ n < beyond * gigabyte
  | .double _ => True

instance : DecidablePred IsWritableSize
  | .whole n =>
    inferInstanceAs (Decidable (-(beyond * megabyte : Int) < n ∧ n < beyond * gigabyte))
  | .double _ => .isTrue trivial

theorem quotientText_eq_error_iff (n : Int) {d : Nat} (hd : 0 < d) (unit : String) :
    quotientText n d unit = .error f ↔ f = .outOfRange ∧ beyond * d ≤ n.natAbs := by
  rw [quotientText, ← Nat.not_lt, ← Binary64.exists_ofQuotient?_iff n hd]
  cases Binary64.ofQuotient? n d with
  | some x => simp
  | none => simp [eq_comm]

/-- A size cannot be written exactly if it is out of range. -/
theorem sizeText_eq_error_iff (q : Quantity) :
    sizeText q = .error f ↔ f = .outOfRange ∧ ¬IsWritableSize q := by
  cases q with
  | double x =>
    refine iff_of_false (fun herror => ?_) fun hout => hout.2 trivial
    rw [sizeText] at herror
    split at herror
    · exact nomatch herror
    · exact nomatch herror
  | whole n =>
    have hpos : 0 < gigabyte := by decide
    have hgigabyte : gigabyte ≤ beyond * megabyte := by decide +kernel
    have hmore : beyond * megabyte ≤ beyond * gigabyte := Nat.mul_le_mul_left _ (by decide)
    have hbounds : IsWritableSize (.whole n) ↔
        -((beyond * megabyte : Nat) : Int) < n ∧ n < ((beyond * gigabyte : Nat) : Int) := by
      rw [IsWritableSize, Nat.cast_mul, Nat.cast_mul]
    rw [hbounds, sizeText]
    split
    · rw [quotientText_eq_error_iff n (by decide)]
      refine and_congr_right fun _ => ?_
      generalize beyond * megabyte = low at *
      generalize beyond * gigabyte = high at *
      omega
    · rw [quotientText_eq_error_iff n (by decide)]
      refine and_congr_right fun _ => ?_
      generalize beyond * megabyte = low at *
      generalize beyond * gigabyte = high at *
      omega

theorem failsOnly_sizeText (q : Quantity) : FailsOnly (sizeText q) (· = .outOfRange) :=
  fun _ herror => ((sizeText_eq_error_iff q).1 herror).1

/-- A figure has a size exactly if it is not out of range. -/
theorem exists_sizeText_iff (q : Quantity) :
    (∃ text, sizeText q = .ok text) ↔ IsWritableSize q := by
  cases htext : sizeText q with
  | ok text =>
    refine iff_of_true ⟨text, rfl⟩ ?_
    by_contra hout
    exact nomatch htext.symm.trans ((sizeText_eq_error_iff q).2 ⟨rfl, hout⟩)
  | error f => exact iff_of_false nofun ((sizeText_eq_error_iff q).1 htext).2

/-- Whether size and use of a filesystem or of swap space have a size. -/
structure Usage.IsWritable (u : Usage) : Prop where
  total : IsWritableSize u.total
  used : IsWritableSize u.used

instance (u : Usage) : Decidable u.IsWritable :=
  decidable_of_iff (IsWritableSize u.total ∧ IsWritableSize u.used)
    ⟨fun hboth => ⟨hboth.1, hboth.2⟩, fun hall => ⟨hall.total, hall.used⟩⟩

/-- Whether size and use of memory have a size. -/
structure Memory.IsWritable (m : Memory) : Prop where
  total : IsWritableSize m.total
  used : ∃ used, m.used = .ok used ∧ IsWritableSize used

theorem Memory.failsOnly_usedText (m : Memory) :
    FailsOnly (m.used >>= sizeText) (· = .outOfRange) :=
  (Quantity.failsOnly_sub _ _).bind fun used _ => failsOnly_sizeText used

theorem Memory.exists_usedText_iff (m : Memory) :
    (∃ text, (m.used >>= sizeText) = .ok text) ↔
      ∃ used, m.used = .ok used ∧ IsWritableSize used := by
  simp only [bind_eq_ok_iff, ← exists_sizeText_iff]
  exact ⟨fun ⟨text, used, hused, htext⟩ => ⟨used, hused, text, htext⟩,
    fun ⟨used, hused, text, htext⟩ => ⟨text, used, hused, htext⟩⟩

theorem failsOnly_integerText (hf : fault .malformed) (n : Int) :
    FailsOnly (integerText n) fault := by
  unfold integerText
  cases Numeral.writeInt? n with
  | some s => exact failsOnly_ok s
  | none => exact failsOnly_error hf

theorem failsOnly_cacheText (hf : fault .malformed) (name : String) (bytes : Int) :
    FailsOnly (cacheText name bytes) fault :=
  (failsOnly_integerText hf _).bind fun _ _ => failsOnly_ok _

/-- The sizes of caches in whole units are never out of range. -/
theorem failsOnly_cachesText (hf : fault .malformed) (l1d l1i l2 l3 : Option Int) :
    FailsOnly (cachesText l1d l1i l2 l3) fault := by
  rw [cachesText.eq_def]
  split
  · refine (failsOnly_cacheText hf _ _).bind fun _ _ => ?_
    refine (failsOnly_cacheText hf _ _).bind fun _ _ => ?_
    exact (failsOnly_cacheText hf _ _).bind fun _ _ => failsOnly_ok _
  · exact failsOnly_ok _

/-- The number of kilobytes from which on a size is out of range. -/
def beyondKilobytes : Nat := beyond * (1024 * 1024)

theorem failsOnly_kilobytesText (hf : fault .malformed) {n : Int}
    (hrange : ↑beyondKilobytes ≤ n → fault .outOfRange) : FailsOnly (kilobytesText n) fault := by
  unfold kilobytesText
  by_cases hgigabytes : 1024 * 1024 ≤ n
  · rw [if_pos hgigabytes]
    intro f heq
    obtain ⟨rfl, hmore⟩ := (quotientText_eq_error_iff n (by decide) _).1 heq
    refine hrange ?_
    unfold beyondKilobytes
    generalize beyond = bound at hmore ⊢
    omega
  rw [if_neg hgigabytes]
  by_cases hmegabytes : 1024 ≤ n
  · rw [if_pos hmegabytes]
    intro f heq
    obtain ⟨-, hmore⟩ := (quotientText_eq_error_iff n (by decide) _).1 heq
    have hless : 1024 * 1024 ≤ beyond * 1024 := Nat.mul_le_mul_right _ (by decide +kernel)
    generalize beyond = bound at hmore hless
    omega
  · rw [if_neg hmegabytes]
    exact (failsOnly_integerText hf n).bind fun _ _ => failsOnly_ok _

/-! ## Management rows -/

/-- Whether a value is neither infinite nor, if it stands for a number, out of the range of sizes in
kilobytes. -/
def Json.IsCacheSize (v : Json) : Prop :=
  ∃ n?, v.toInt? = .ok n? ∧ ∀ n ∈ n?, n < (beyondKilobytes : Int)

/-- Whether a value is a text or counts as nothing. -/
def Json.IsTextOrNothing (v : Json) : Prop := v.isTruthy = true → ∃ s, v = .text s

namespace Row

theorem failsOnly_member (hf : fault .missingMember) (r : Row) (name : String) :
    FailsOnly (r.member name) fault := by
  rw [member]
  cases r.lookup name with
  | some v => exact failsOnly_ok v
  | none => exact failsOnly_error hf

theorem lookup_of_member {r : Row} {name : String} {v : Json} (hv : r.member name = .ok v) :
    r.lookup name = some v := by
  rw [member] at hv
  cases hlookup : r.lookup name with
  | some v' =>
    rw [hlookup] at hv
    exact congrArg some (Except.ok.inj hv)
  | none =>
    rw [hlookup] at hv
    exact nomatch hv

theorem failsOnly_spacedText {v : Json} (hkind : ¬v.IsTextOrNothing → fault .wrongKind) :
    FailsOnly (spacedText v) fault := by
  rw [spacedText.eq_def]
  split
  · exact failsOnly_ok _
  · rename_i htext
    split
    · rename_i htruthy
      exact failsOnly_error (hkind fun hall => (hall htruthy).elim htext)
    · exact failsOnly_ok _

variable {r : Row} {name : String}

theorem failsOnly_text? (hmissing : fault .missingMember)
    (hkind : ∀ v, r.lookup name = some v → ¬v.IsTextOrNothing → fault .wrongKind) :
    FailsOnly (r.text? name) fault := by
  refine (failsOnly_member hmissing r name).bind fun v hv => ?_
  split
  · have hspaced : FailsOnly (spacedText v) fault :=
      failsOnly_spacedText (hkind v (lookup_of_member hv))
    exact hspaced.bind fun _ _ => failsOnly_ok _
  · exact failsOnly_ok _

theorem failsOnly_textOrEmpty
    (hkind : ∀ v, r.lookup name = some v → ¬v.IsTextOrNothing → fault .wrongKind) :
    FailsOnly (r.textOrEmpty name) fault := by
  rw [textOrEmpty]
  cases hlookup : r.lookup name with
  | some v => exact failsOnly_spacedText (hkind v hlookup)
  | none => exact failsOnly_ok _

theorem failsOnly_texts {rows : List Row} (hmissing : fault .missingMember)
    (hkind : ∀ r ∈ rows, ∀ v, r.lookup name = some v → ¬v.IsTextOrNothing → fault .wrongKind) :
    FailsOnly (texts rows name) fault := by
  have hrows : FailsOnly (rows.mapM fun r => text? r name) fault :=
    failsOnly_mapM fun r hr => failsOnly_text? hmissing (hkind r hr)
  exact hrows.bind fun _ _ => failsOnly_ok _

end Row

/-! ## Sizes of caches in management rows -/

theorem Json.failsOnly_toInt? {v : Json} (hrange : ¬v.IsCacheSize → fault .outOfRange) :
    FailsOnly v.toInt? fault := by
  intro f heq
  have hno : ¬v.IsCacheSize := by
    rintro ⟨n?, hok, -⟩
    rw [heq] at hok
    exact nomatch hok
  have hfault : f = .outOfRange := by
    rw [Json.toInt?.eq_def] at heq
    split at heq
    case h_4 x hx =>
      cases x with
      | nan => exact absurd rfl hx
      | infinite negative => exact (Except.error.inj heq).symm
      | finite negative units h => exact nomatch heq
    all_goals exact nomatch heq
  exact hfault ▸ hrange hno

/-- What a value stands for that has the size of a cache is in range. -/
theorem failsOnly_kilobytesText_of_toInt? (hf : fault .malformed) {v : Json} {n? : Option Int}
    (hn? : v.toInt? = .ok n?) (hrange : ¬v.IsCacheSize → fault .outOfRange) {n : Int}
    (hn : n ∈ n?) : FailsOnly (kilobytesText n) fault := by
  refine failsOnly_kilobytesText hf fun hmore => hrange ?_
  rintro ⟨m?, hm?, hless⟩
  obtain rfl : n? = m? := Except.ok.inj (hn?.symm.trans hm?)
  exact absurd (hless n hn) (Int.not_lt.2 hmore)

section

variable (htolerated : ∀ f, f.isOfCollector = true → fault f)

include htolerated

theorem failsOnly_installedSize {r : Row}
    (hrange : ∀ v, r.lookup "InstalledSize" = some v → ¬v.IsCacheSize → fault .outOfRange) :
    FailsOnly (Platform.installedSize r) fault := by
  refine (Row.failsOnly_member (htolerated _ rfl) r _).bind fun v hv => ?_
  have hsize := hrange v (Row.lookup_of_member hv)
  refine (Json.failsOnly_toInt? hsize).bind fun n? hn? => ?_
  cases n? with
  | none => exact failsOnly_ok _
  | some n =>
    have htext : FailsOnly (kilobytesText n) fault :=
      failsOnly_kilobytesText_of_toInt? (htolerated _ rfl) hn? hsize rfl
    exact htext.bind fun _ _ => failsOnly_ok _

theorem failsOnly_memberSize {r : Row} {name : String}
    (hrange : ∀ v, r.lookup name = some v → ¬v.IsCacheSize → fault .outOfRange) :
    FailsOnly (Platform.memberSize r name) fault := by
  refine (Row.failsOnly_member (htolerated _ rfl) r _).bind fun v hv => ?_
  have hsize := hrange v (Row.lookup_of_member hv)
  refine (Json.failsOnly_toInt? hsize).bind fun n? hn? => ?_
  cases n? with
  | none =>
    refine failsOnly_kilobytesText (htolerated _ rfl) fun hmore => ?_
    exact absurd hmore (Int.not_le.2 (by decide +kernel))
  | some n => exact failsOnly_kilobytesText_of_toInt? (htolerated _ rfl) hn? hsize rfl

theorem failsOnly_windowsCaches {processors caches : List Row}
    (hinstalled : ∀ r ∈ caches, ∀ v, r.lookup "InstalledSize" = some v →
      ¬v.IsCacheSize → fault .outOfRange)
    (hmembers : ∀ r ∈ processors, ∀ name ∈ ["L2CacheSize", "L3CacheSize"], ∀ v,
      r.lookup name = some v → ¬v.IsCacheSize → fault .outOfRange) :
    FailsOnly (Platform.windowsCaches processors caches) fault := by
  have hsizes : FailsOnly (caches.mapM Platform.installedSize) fault :=
    failsOnly_mapM fun r hr => failsOnly_installedSize htolerated (hinstalled r hr)
  refine hsizes.bind fun sizes _ => ?_
  split
  · exact failsOnly_ok _
  · cases processors with
    | nil => exact failsOnly_ok _
    | cons cpu processors =>
      have hmember : ∀ name ∈ ["L2CacheSize", "L3CacheSize"],
          FailsOnly (Platform.memberSize cpu name) fault := fun name hname =>
        failsOnly_memberSize htolerated (hmembers cpu List.mem_cons_self name hname)
      have hl3 : ∀ l1 l2 : String, FailsOnly (do
          let l3 ← Platform.memberSize cpu "L3CacheSize"
          return s!"L1: {l1} / L2: {l2} / L3: {l3}") fault := fun l1 l2 =>
        (hmember _ (by decide)).bind fun _ _ => failsOnly_ok _
      dsimp only
      split
      · exact (failsOnly_ok _).bind fun l2 _ => hl3 _ l2
      · exact (hmember _ (by decide)).bind fun l2 _ => hl3 _ l2

end

end HostReport
