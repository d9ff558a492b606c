import HostReport.GeoIp.Payload
import HostReport.Proofs.Http.Fetch

/-!
# Faults of payloads

A fault stays with its source if the source is guarded against its kind.  Of what can go wrong
between a reply and the identity read from it, two things do not stay there: a JSON text that is
nested too deeply, and a network number that is infinite.  Every other reading is contained, in
whatever kinds the members of the payload are, unless there is no reply at all for a fault that no
source is guarded against.
-/

namespace HostReport

variable {α β : Type}

/-- Whether a value is there, or is missing for a fault that stays with its source. -/
def Contained (x : Except Fault α) : Prop := ∀ f, x = .error f → f.isOfSource = true

@[simp] theorem contained_ok (a : α) : Contained (.ok a : Except Fault α) := fun _ hf => nomatch hf

@[simp] theorem contained_error_iff (f : Fault) :
    Contained (.error f : Except Fault α) ↔ f.isOfSource = true :=
  ⟨fun h => h f rfl, fun h g hg => by
    cases hg
    exact h⟩

@[simp] theorem contained_map_iff (g : α → β) (x : Except Fault α) :
    Contained (x.map g) ↔ Contained x := by
  cases x <;> simp [Except.map]

theorem contained_bind_iff (x : Except Fault α) (g : α → Except Fault β) :
    Contained (x.bind g) ↔ Contained x ∧ ∀ a, x = .ok a → Contained (g a) := by
  cases x <;> simp [Except.bind]

/-! ## Replies -/

/-- Whether there is no reply, for a fault that the sources are not guarded against. -/
def HttpReply.IsBreach (r : HttpReply) : Prop := ∃ f, r = .raised f ∧ f.isOfSource = false

theorem HttpReply.isBreach_raised_iff (f : Fault) :
    (HttpReply.raised f).IsBreach ↔ f.isOfSource = false := by
  simp [IsBreach]

theorem HttpReply.not_isBreach_failed (reason : String) : ¬(HttpReply.failed reason).IsBreach := by
  rintro ⟨f, hreply, -⟩
  exact nomatch hreply

theorem HttpReply.not_isBreach_answered (status : Int) (reason body : String) :
    ¬(HttpReply.answered status reason body).IsBreach := by
  rintro ⟨f, hreply, -⟩
  exact nomatch hreply

/-- The text of a reply is contained unless the reply is a breach. -/
theorem HttpReply.contained_body_iff (url : String) (r : HttpReply) :
    Contained (r.body url) ↔ ¬r.IsBreach := by
  cases r with
  | raised f => simp [HttpReply.body, HttpReply.isBreach_raised_iff]
  | failed reason =>
    exact iff_of_true ((contained_error_iff _).2 rfl) (HttpReply.not_isBreach_failed reason)
  | answered status reason body =>
    refine iff_of_true ?_ (HttpReply.not_isBreach_answered status reason body)
    by_cases hrefusal : HttpSession.isRefusal status
    · simp [HttpReply.body, hrefusal, Fault.isOfSource]
    · simp [HttpReply.body, hrefusal]

/-- Of the faults between a reply that is no breach and its fields, only deep nesting is not
contained. -/
theorem HttpReply.contained_fields_iff (maxNesting : Nat) (url : String) (r : HttpReply) :
    Contained (r.fields maxNesting url) ↔
      ¬r.IsBreach ∧ r.json? maxNesting ≠ some (.error .tooDeep) := by
  cases r with
  | raised f =>
    simp [HttpReply.fields, HttpReply.body, HttpReply.json?, Except.bind,
      HttpReply.isBreach_raised_iff]
  | failed reason =>
    rw [and_iff_right (HttpReply.not_isBreach_failed reason)]
    simp [HttpReply.fields, HttpReply.body, HttpReply.json?, Except.bind, Fault.isOfSource]
  | answered status reason body =>
    rw [and_iff_right (HttpReply.not_isBreach_answered status reason body)]
    by_cases hrefusal : HttpSession.isRefusal status
    · simp [HttpReply.fields, HttpReply.body, HttpReply.json?, hrefusal, Except.bind,
        Fault.isOfSource]
    · simp only [HttpReply.fields, HttpReply.body, HttpReply.json?, hrefusal, Except.bind,
        Bool.false_eq_true, if_false, ne_eq, Option.some.injEq]
      cases Json.parse body maxNesting with
      | error e => cases e <;> simp [Fault.isOfSource, Fault.isValue]
      | ok v => cases v <;> simp [Fault.isOfSource]

/-- A reply has fields exactly if its text is an object. -/
theorem HttpReply.fields_eq_ok_iff (maxNesting : Nat) (url : String) (r : HttpReply)
    (fields : List (String × Json)) :
    r.fields maxNesting url = .ok fields ↔ r.json? maxNesting = some (.ok (.object fields)) := by
  cases r with
  | raised f => simp [HttpReply.fields, HttpReply.body, HttpReply.json?, Except.bind]
  | failed reason => simp [HttpReply.fields, HttpReply.body, HttpReply.json?, Except.bind]
  | answered status reason body =>
    by_cases hrefusal : HttpSession.isRefusal status
    · simp [HttpReply.fields, HttpReply.body, HttpReply.json?, hrefusal, Except.bind]
    · simp only [HttpReply.fields, HttpReply.body, HttpReply.json?, hrefusal, Except.bind,
        Bool.false_eq_true, if_false, Option.some.injEq]
      cases Json.parse body maxNesting with
      | error e => cases e <;> simp
      | ok v => cases v <;> simp

/-! ## Network numbers -/

/-- Whether a member holds an infinite number. -/
def IsInfinite (member : Option Json) : Prop :=
  ∃ negative, member = some (.double (.infinite negative))

theorem not_isInfinite_none : ¬IsInfinite none := by
  rintro ⟨negative, hmember⟩
  exact nomatch hmember

theorem contained_integerText (n : Int) : Contained (integerText n) := by
  unfold integerText
  generalize Numeral.writeInt? n = text
  cases text with
  | some s => exact contained_ok s
  | none => exact (contained_error_iff _).2 rfl

theorem contained_toInt_iff (x : Binary64) :
    Contained x.toInt ↔ ¬IsInfinite (some (.double x)) := by
  cases x with
  | nan => simp [Binary64.toInt, IsInfinite, Fault.isOfSource, Fault.isValue]
  | infinite negative => simp [Binary64.toInt, IsInfinite, Fault.isOfSource, Fault.isValue]
  | finite s u hu => simp [Binary64.toInt, IsInfinite]

/-- The text of a network number is contained unless the number is infinite. -/
theorem contained_asnText_iff (member : Option Json) :
    Contained (asnText member) ↔ ¬IsInfinite member := by
  cases member with
  | none => exact iff_of_true (contained_ok _) not_isInfinite_none
  | some v =>
    cases v with
    | int n =>
      refine iff_of_true (contained_integerText n) ?_
      rintro ⟨negative, hmember⟩
      exact nomatch hmember
    | double x =>
      have hbind : asnText (some (.double x)) = x.toInt.bind integerText := rfl
      rw [hbind, contained_bind_iff, contained_toInt_iff]
      exact and_iff_left fun n _ => contained_integerText n
    | _ => simp [asnText, IsInfinite]

/-! ## Payloads of identities -/

/-- A payload whose reading goes wrong only in its network number is contained as the number is. -/
theorem contained_of_asnText {x : Except Fault IpInfo} {member : Option Json}
    {g : String → IpInfo} (hx : x = (asnText member).bind fun asn => .ok (g asn)) :
    Contained x ↔ ¬IsInfinite member := by
  rw [hx, contained_bind_iff, contained_asnText_iff]
  exact and_iff_left fun asn _ => contained_ok (g asn)

namespace IpInfo

theorem contained_ofCloudflare_iff (fields : List (String × Json)) :
    Contained (ofCloudflare fields) ↔ ¬IsInfinite (Json.field? "asn" fields) :=
  contained_of_asnText rfl

theorem contained_ofIpsb_iff (fields : List (String × Json)) :
    Contained (ofIpsb fields) ↔ ¬IsInfinite (Json.field? "asn" fields) :=
  contained_of_asnText rfl

/-- The member of an answer with names in several languages that holds the network number. -/
def maxmindNumber (fields : List (String × Json)) : Option Json :=
  (Json.field? "traits" fields).bind (Json.member? "autonomous_system_number")

theorem contained_ofMaxmind_iff (fields : List (String × Json)) :
    Contained (ofMaxmind fields) ↔ ¬IsInfinite (maxmindNumber fields) := by
  rw [ofMaxmind, maxmindNumber]
  cases Json.field? "traits" fields with
  | none => exact contained_of_asnText rfl
  | some v => cases v <;> exact contained_of_asnText rfl

/-- The number within a text is never infinite. -/
theorem contained_ofIpinfo (fields : List (String × Json)) : Contained (ofIpinfo fields) := by
  rw [ofIpinfo]
  dsimp only
  split
  · exact contained_ok _
  · exact contained_ok _

theorem contained_ofHackertarget (ip body : String) : Contained (ofHackertarget ip body) := by
  rw [ofHackertarget]
  dsimp only
  split
  · exact contained_ok _
  · split
    · exact contained_ok _
    · exact contained_ok _

theorem contained_ofIpapi (ip : String) (fields : List (String × Json)) :
    Contained (ofIpapi ip fields) := by
  rw [ofIpapi]
  split
  · exact contained_ok _
  · exact contained_ok _

end IpInfo

end HostReport
