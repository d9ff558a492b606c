import HostReport.Ipv6.Listing
import HostReport.Proofs.Ipv6.Scope
import HostReport.Proofs.Number.Numeral
import HostReport.Proofs.Text.Scan

/-!
# Listed addresses

Listings show addresses with the lengths of their prefixes.  Of the numbers that are found the first
length of use counts (`firstOfUse`); a number of more digits than are read is a fault, unless a
length of use stands before it.
-/

namespace HostReport.Ipv6

open Text

/-! ## Lengths -/

/-- Whether a number is the length of a prefix that is of use. -/
def IsOfUse (n : Nat) : Prop := 1 ≤ n ∧ n ≤ 128

/-- Whether a number has more digits than are read. -/
def IsTooLong (n : Nat) : Prop := 10 ^ Numeral.maxDigits ≤ n

instance : DecidablePred IsOfUse := fun _ => inferInstanceAs (Decidable (_ ∧ _))

instance : DecidablePred IsTooLong := fun _ => Nat.decLe _ _

/-- What the first number tells that is of use, or is too long to be read. -/
def firstOfUse (ns : List Nat) : Except Fault (Option Int) :=
  match ns.find? fun n => IsOfUse n ∨ IsTooLong n with
  | none => .ok none
  | some n => if IsOfUse n then .ok (some n) else .error .malformed

theorem not_isTooLong_of_lt {n : Nat} (hn : n < 1000) : ¬IsTooLong n := by
  have hpower : 10 ^ 3 ≤ 10 ^ Numeral.maxDigits := Nat.pow_le_pow_right (by decide) (by decide)
  rw [IsTooLong]
  omega

theorem IsOfUse.not_isTooLong {n : Nat} (hn : IsOfUse n) : ¬IsTooLong n :=
  not_isTooLong_of_lt (by have := hn.2; omega)

theorem isValidLength_natCast_iff (n : Nat) : isValidLength n = true ↔ IsOfUse n := by
  rw [isValidLength_iff, IsOfUse]
  omega

section

variable {n : Nat} {ns : List Nat}

theorem firstOfUse_nil : firstOfUse [] = .ok none := rfl

theorem firstOfUse_cons_of_isOfUse (hn : IsOfUse n) : firstOfUse (n :: ns) = .ok (some n) := by
  simp [firstOfUse, hn]

theorem firstOfUse_cons_of_isTooLong (hn : IsTooLong n) :
    firstOfUse (n :: ns) = .error .malformed := by
  have hnot : ¬IsOfUse n := fun huse => huse.not_isTooLong hn
  simp [firstOfUse, hn, hnot]

theorem firstOfUse_cons_of_not (huse : ¬IsOfUse n) (hlong : ¬IsTooLong n) :
    firstOfUse (n :: ns) = firstOfUse ns := by
  simp [firstOfUse, huse, hlong]

theorem firstOfUse_cons_congr (n : Nat) {ms : List Nat} (h : firstOfUse ns = firstOfUse ms) :
    firstOfUse (n :: ns) = firstOfUse (n :: ms) := by
  by_cases huse : IsOfUse n
  · rw [firstOfUse_cons_of_isOfUse huse, firstOfUse_cons_of_isOfUse huse]
  · by_cases hlong : IsTooLong n
    · rw [firstOfUse_cons_of_isTooLong hlong, firstOfUse_cons_of_isTooLong hlong]
    · rw [firstOfUse_cons_of_not huse hlong, firstOfUse_cons_of_not huse hlong, h]

theorem firstOfUse_eq_none_iff :
    firstOfUse ns = .ok none ↔ ∀ n ∈ ns, ¬IsOfUse n ∧ ¬IsTooLong n := by
  have hnone : (ns.find? fun n => IsOfUse n ∨ IsTooLong n) = none ↔
      ∀ n ∈ ns, ¬IsOfUse n ∧ ¬IsTooLong n := by
    simp
  rw [← hnone, firstOfUse]
  cases ns.find? fun n => IsOfUse n ∨ IsTooLong n with
  | none => simp
  | some n =>
    dsimp only
    split
    · simp
    · simp

/-- The numbers behind others count where those tell nothing. -/
theorem firstOfUse_append_bind {ms : List Nat} {next : Except Fault (Option Int)}
    (hnext : next = firstOfUse ms) :
    (do
      match ← firstOfUse ns with
      | some n => return some n
      | none => next) = firstOfUse (ns ++ ms) := by
  rw [firstOfUse, firstOfUse, List.find?_append]
  cases hfound : ns.find? fun n => IsOfUse n ∨ IsTooLong n with
  | none =>
    rw [Option.none_or]
    exact hnext
  | some n =>
    rw [Option.some_or]
    by_cases huse : IsOfUse n
    · simp only [if_pos huse]
      rfl
    · simp only [if_neg huse]
      rfl

/-- Of numbers that can be read the first one of use is told. -/
theorem firstOfUse_of_forall_lt (hns : ∀ n ∈ ns, n < 1000) :
    firstOfUse ns = .ok ((ns.find? fun n => IsOfUse n).map Nat.cast) := by
  induction ns with
  | nil => rfl
  | cons n ns ih =>
    obtain ⟨hn, hns⟩ := List.forall_mem_cons.1 hns
    by_cases huse : IsOfUse n
    · rw [firstOfUse_cons_of_isOfUse huse, List.find?_cons_of_pos (by simpa using huse)]
      rfl
    · rw [firstOfUse_cons_of_not huse (not_isTooLong_of_lt hn), ih hns,
        List.find?_cons_of_neg (by simpa using huse)]

end

theorem readLength_toDigits_of_not {n : Nat} (hn : ¬IsTooLong n) :
    readLength (Nat.toDigits 10 n) = .ok (n : Int) := by
  rw [readLength, Numeral.readInt?_toDigits, if_pos (Nat.not_le.1 hn)]

/-- One number decides, or the numbers behind it do. -/
theorem readLength_toDigits_bind (n : Nat) {ns : List Nat} {next : Except Fault (Option Int)}
    (hnext : next = firstOfUse ns) :
    (do
      let m ← readLength (Nat.toDigits 10 n)
      if isValidLength m then return some m else next) = firstOfUse (n :: ns) := by
  by_cases hlong : IsTooLong n
  · rw [readLength, Numeral.readInt?_toDigits, if_neg (Nat.not_lt.2 hlong),
      firstOfUse_cons_of_isTooLong hlong]
    rfl
  · rw [readLength_toDigits_of_not hlong]
    change (if isValidLength n = true then Except.ok (some (n : Int)) else next) = _
    by_cases huse : IsOfUse n
    · rw [if_pos ((isValidLength_natCast_iff n).2 huse), firstOfUse_cons_of_isOfUse huse]
    · rw [if_neg (mt (isValidLength_natCast_iff n).1 huse), firstOfUse_cons_of_not huse hlong,
        hnext]

/-- Numbers found in a file tell the first length of use among them. -/
theorem firstValid_map_toDigits (ns : List Nat) :
    firstValid (ns.map (Nat.toDigits 10)) = firstOfUse ns := by
  induction ns with
  | nil => rfl
  | cons n ns ih =>
    rw [List.map_cons, firstValid]
    exact readLength_toDigits_bind n ih

/-! ## Addresses -/

/-- The word before an address of an interface. -/
def addressWord : String := "inet6"

theorem isBlank_of_isHexOrColon {c : Char} (hc : isHexOrColon c = true) : isBlank c = false := by
  simp only [isHexOrColon, Bool.or_eq_true, Bool.and_eq_true, decide_eq_true_eq] at hc
  simp only [isBlank, Bool.or_eq_false_iff, Bool.and_eq_false_iff, decide_eq_false_iff_not,
    beq_eq_false_iff_ne]
  omega

theorem isHexOrColon_of_isDigit {c : Char} (hc : c.isDigit = true) : isHexOrColon c = true := by
  have hrange := Numeral.toNat_of_isDigit hc
  simp only [isHexOrColon, Bool.or_eq_true, Bool.and_eq_true, decide_eq_true_eq]
  omega

/-- An address as it is shown, with the length of its prefix. -/
structure ListedAddress where
  address : List Char
  length : Nat
  address_ne_nil : address ≠ []
  isHexOrColon : ∀ c ∈ address, isHexOrColon c = true

namespace ListedAddress

variable (a : ListedAddress)

/-- Whether the address counts as global. -/
def IsPublic : Prop := isPublicText (String.ofList a.address) = true

instance : DecidablePred IsPublic := fun _ => inferInstanceAs (Decidable (_ = _))

/-- The digits of the length. -/
def digits : List Char := Nat.toDigits 10 a.length

/-- The address and, after a slash, the length. -/
def shown : List Char := a.address ++ '/' :: a.digits

/-- What a scanner finds of it. -/
def pair : List Char × List Char := (a.address, a.digits)

theorem digits_ne_nil : a.digits ≠ [] := Nat.toDigits_ne_nil

theorem isDigit_of_mem_digits : ∀ c ∈ a.digits, c.isDigit = true :=
  Numeral.isDigit_of_mem_toDigits

theorem isDecimal_of_mem_digits : ∀ c ∈ a.digits, isDecimal c = true :=
  fun c hc => Numeral.isDecimal_of_isDigit (a.isDigit_of_mem_digits c hc)

/-- What is shown are hexadecimal digits and colons, but for one slash. -/
theorem forall_mem_shown : ∀ c ∈ a.shown, Text.isHexOrColon c = true ∨ c = '/' := by
  intro c hc
  rw [shown, List.mem_append, List.mem_cons] at hc
  rcases hc with haddress | rfl | hdigit
  · exact .inl (a.isHexOrColon c haddress)
  · exact .inr rfl
  · exact .inl (isHexOrColon_of_isDigit (a.isDigit_of_mem_digits c hdigit))

theorem slashPair_shown_append {s : List Char} (hs : ∀ c ∈ s.head?, isDecimal c = false) :
    slashPair (a.shown ++ s) = some (a.pair, s) := by
  have haddress : Scan.run1 Text.isHexOrColon (a.address ++ '/' :: (a.digits ++ s)) =
      some (a.address, '/' :: (a.digits ++ s)) :=
    Scan.run1_append a.address_ne_nil a.isHexOrColon fun c hc => by
      obtain rfl : '/' = c := Option.some.inj hc
      decide
  have hslash : Scan.word "/" ('/' :: (a.digits ++ s)) = some ((), a.digits ++ s) :=
    Scan.word_append "/" (a.digits ++ s)
  have hdigits := Scan.run1_append a.digits_ne_nil a.isDecimal_of_mem_digits hs
  rw [shown, List.append_assoc, List.cons_append, slashPair, Scan.bind_of_some haddress,
    Scan.bind_of_some hslash, Scan.bind_of_some hdigits]
  rfl

theorem shown_ne_nil : a.shown ≠ [] := List.append_ne_nil_of_left_ne_nil a.address_ne_nil _

theorem head?_address_append (s : List Char) :
    ∀ c ∈ (a.address ++ s).head?, isBlank c = false :=
  Scan.head?_append_of_forall a.address_ne_nil
    (fun c hc => isBlank_of_isHexOrColon (a.isHexOrColon c hc)) s

theorem head?_shown_append (s : List Char) : ∀ c ∈ (a.shown ++ s).head?, isBlank c = false := by
  rw [shown, List.append_assoc]
  exact a.head?_address_append _

theorem head?_digits_append (s : List Char) :
    ∀ c ∈ (a.digits ++ s).head?, isBlank c = false :=
  Scan.head?_append_of_forall a.digits_ne_nil
    (fun c hc => isBlank_of_isHexOrColon (isHexOrColon_of_isDigit (a.isDigit_of_mem_digits c hc))) s

end ListedAddress

/-- A global address of a site, with its prefix. -/
def siteAddress : ListedAddress where
  address := "2001:db8:1::1".toList
  length := 48
  address_ne_nil := by decide
  isHexOrColon := by decide

/-- A global address of a subnet, with its prefix. -/
def subnetAddress : ListedAddress where
  address := "2001:db8:9::3".toList
  length := 64
  address_ne_nil := by decide
  isHexOrColon := by decide

/-- An address of a link, with its prefix. -/
def linkLocalAddress : ListedAddress where
  address := "fe80::2".toList
  length := 10
  address_ne_nil := by decide
  isHexOrColon := by decide

/-- What is read of an address and its length ends before a blank and before another letter. -/
theorem endsAt_slashPair {v : List Char} (hv : ∀ c ∈ v.head?, c ∈ [' ', '\n', 'p']) :
    Scan.EndsAt slashPair v := by
  have hnone (p : Char → Bool) (hp : ∀ c ∈ [' ', '\n', 'p'], p c = false) :
      Scan.EndsAt (Scan.run1 p) v := Scan.endsAt_run1 fun c hc => hp c (hv c hc)
  have hslash : ∀ c ∈ [' ', '\n', 'p'], c ∉ "/".toList := by decide
  exact (hnone _ (by decide)).bind fun _ =>
    (Scan.endsAt_word fun c hc => hslash c (hv c hc)).bind fun _ =>
      (hnone _ (by decide)).bind fun _ => Scan.endsAt_pure _ _

/-- The lengths of those addresses that count as global. -/
def lengthsOfPublic (as : List ListedAddress) : List Nat :=
  (as.filter fun a => a.IsPublic).map ListedAddress.length

theorem isDigits_of_isDigit {ds : List Char} (hne : ds ≠ []) (hds : ∀ c ∈ ds, c.isDigit = true) :
    isDigits ds = true := by
  rw [isDigits, Bool.and_eq_true, Bool.not_eq_true', List.isEmpty_eq_false_iff, List.all_eq_true]
  refine ⟨hne, fun c hc => ?_⟩
  rw [isDigit, Numeral.isDecimal_of_isDigit (hds c hc), Bool.true_or]

theorem lengthsOfPublic_cons (a : ListedAddress) (as : List ListedAddress) :
    lengthsOfPublic (a :: as) =
      if isPublicText (String.ofList a.address) = true then a.length :: lengthsOfPublic as
      else lengthsOfPublic as := by
  rw [lengthsOfPublic, List.filter_cons]
  by_cases hpublic : isPublicText (String.ofList a.address) = true
  · have hkept : decide a.IsPublic = true := decide_eq_true hpublic
    rw [if_pos hkept, if_pos hpublic]
    rfl
  · have hdropped : ¬decide a.IsPublic = true := mt of_decide_eq_true hpublic
    rw [if_neg hdropped, if_neg hpublic]
    rfl

theorem mem_lengthsOfPublic_iff {n : Nat} {as : List ListedAddress} :
    n ∈ lengthsOfPublic as ↔ ∃ a ∈ as, a.IsPublic ∧ a.length = n := by
  simp only [lengthsOfPublic, List.mem_map, List.mem_filter, decide_eq_true_eq, and_assoc]

theorem lengthsOfPublic_append (as as' : List ListedAddress) :
    lengthsOfPublic (as ++ as') = lengthsOfPublic as ++ lengthsOfPublic as' := by
  rw [lengthsOfPublic, List.filter_append, List.map_append]
  rfl

/-- Listed addresses tell the first length of use of a global one. -/
theorem firstPublic_map_pair (as : List ListedAddress) :
    firstPublic (as.map ListedAddress.pair) = firstOfUse (lengthsOfPublic as) := by
  induction as with
  | nil => rfl
  | cons a as ih =>
    have hdigits : isDigits a.digits = true :=
      isDigits_of_isDigit a.digits_ne_nil a.isDigit_of_mem_digits
    rw [List.map_cons, ListedAddress.pair, firstPublic, hdigits, Bool.and_true,
      lengthsOfPublic_cons]
    split
    · exact readLength_toDigits_bind a.length ih
    · exact ih

end HostReport.Ipv6
