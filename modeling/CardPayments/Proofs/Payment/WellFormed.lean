import CardPayments.Proofs.Binary64.Written
import CardPayments.Proofs.Json.Encodable
import CardPayments.Proofs.Payment.Charge
import CardPayments.Proofs.Time.Ordinary

/-!
# Well-formed replies

A reply is well formed when it is accepted and brings an object without anything that cannot be stored, and
whose date, if it has one, is the text of an ordinary time (`Provider.IsWellFormed`).  That of a charge also
has texts for its status and its message, a number for its amount, and an object for its method of payment,
if it has any of these (`Provider.IsWellFormedCharge`).  Everything that a payment makes of such a reply can
be made of it, and can be stored.
-/

namespace CardPayments

open Json

namespace Provider

open Account PaymentService.Attempt

/-- The reply is accepted, and its body is read as the object with these fields. -/
def Reply.Brings (reply : Reply) (fields : List (Text × Value)) : Prop :=
  ∃ status body, reply = .answered status body ∧ (status = 200 ∨ status = 201) ∧
    Json.read body = .ok (.object fields)

/-- The amount of a charge: none, an integer below ten trillions, or any finite floating-point number. -/
inductive IsAmount : Value → Prop where
  /-- Null. -/
  | null : IsAmount .null
  /-- The empty text. -/
  | empty : IsAmount (.text [])
  /-- An integer. -/
  | int {n : Int} : n.natAbs < 10 ^ 13 → IsAmount (.int n)
  /-- A floating-point number. -/
  | float (negative : Bool) (index : Fin 0x7FF0000000000000) : IsAmount (.float (.finite negative index))

/-- An object as the provider should send it. -/
structure IsWellFormed (fields : List (Text × Value)) : Prop where
  standard : (Value.object fields).isStandard = true
  encodable : (Value.object fields).isEncodable = true
  date : IsDate (field fields "creation_date")

/-- What there is beyond that to the object for a charge. -/
structure IsWellFormedCharge (fields : List (Text × Value)) : Prop where
  status : field fields "status" = .null ∨ ∃ t, field fields "status" = .text t
  amount : IsAmount (field fields "amount")
  message : field fields "error_message" = .null ∨ ∃ t, field fields "error_message" = .text t
  method : field fields "payment_method" = .null ∨
    ∃ inner, field fields "payment_method" = .object inner

variable {reply : Reply} {fields : List (Text × Value)}

/-- What is sent for a customer is standard when what is known of the customer is. -/
theorem Customer.isStandard_toPayload {c : Customer} (hname : c.name.isStandard = true)
    (hemail : c.email.isStandard = true) (hid : c.id.isStandard = true) : c.toPayload.isStandard = true := by
  unfold Customer.toPayload
  dsimp only
  by_cases hknown : c.id.isTruthy = true
  · rw [if_pos hknown]
    simp [Value.isStandard, Value.fieldsStandard, hname, hemail, hid]
  · rw [if_neg hknown]
    simp [Value.isStandard, Value.fieldsStandard, hname, hemail]

theorem Reply.Brings.answerOf (h : reply.Brings fields) : answerOf reply = .ok (.object fields) := by
  obtain ⟨status, body, rfl, hstatus, hbody⟩ := h
  exact answerOf_of_read hstatus hbody

theorem exists_readAmount {v : Value} (h : IsAmount v) :
    ∃ amount, readAmount v = .ok amount ∧ ∀ x, amount = some x → x.isFinite = true := by
  have hread {v : Value} {negative : Bool} {coefficient : Nat} {exponent : Int}
      (h : Decimal.read v.display = .ok (.finite negative coefficient exponent)) :
      ∃ amount, ((Decimal.read v.display).map some).mapError Failure.decimal = .ok amount ∧
        ∀ x, amount = some x → x.isFinite = true := by
    refine ⟨some (.finite negative coefficient exponent), ?_, ?_⟩
    · rw [h]
      rfl
    · rintro _ ⟨⟩
      rfl
  cases h with
  | null => exact ⟨none, rfl, nofun⟩
  | empty => exact ⟨none, rfl, nofun⟩
  | int hn =>
    obtain ⟨_, coefficient, exponent, h⟩ := Decimal.read_ofInt (by decide) hn
    exact hread h
  | float negative index =>
    obtain ⟨coefficient, exponent, h⟩ := Binary64.read_toText negative index
    exact hread h

variable (h : IsWellFormed fields)

include h

theorem isStorable_field (name : Text) : (field fields name).display.IsStorable :=
  Value.isStorable_display_of_isEncodable (isEncodable_field name h.encodable)

/-- The customer that a well-formed reply describes. -/
theorem exists_customerOf (hreply : reply.Brings fields) :
    ∃ c, customerOf reply = .ok c ∧ c.id.display.IsStorable ∧ c.toPayload.isStandard = true := by
  obtain ⟨date, hdate, _⟩ := exists_readDate h.date
  have hstandard (name : Text) := isStandard_field name h.standard
  refine ⟨_, bind_eq_ok.2 ⟨_, hreply.answerOf, Customer.ofPayload_eq_ok.2 ⟨fields, date, rfl, hdate, rfl⟩⟩,
    isStorable_field h "id", ?_⟩
  exact Customer.isStandard_toPayload (Value.isStandard_orEmpty (hstandard "name"))
    (Value.isStandard_orEmpty (hstandard "email")) (hstandard "id")

/-- The card that a well-formed reply describes. -/
theorem exists_cardOf (deviceSession : Value) (hreply : reply.Brings fields) :
    ∃ c, cardOf deviceSession reply = .ok c ∧ c.id.display.IsStorable ∧ c.id.isStandard = true ∧
      ∀ d, c.creationDate = some d → d.IsOrdinary := by
  obtain ⟨date, hdate, hordinary⟩ := exists_readDate h.date
  exact ⟨_, bind_eq_ok.2 ⟨_, hreply.answerOf, Card.ofPayload_eq_ok.2 ⟨fields, date, rfl, hdate, rfl⟩⟩,
    isStorable_field h "id", isStandard_field "id" h.standard, hordinary⟩

/-- The charge that a well-formed reply describes can be logged and booked. -/
theorem exists_chargeOf (hcharge : IsWellFormedCharge fields) (hreply : reply.Brings fields) :
    ∃ c status, chargeOf reply = .ok c ∧ statusText c.status = .ok status ∧
      c.id.display.IsStorable ∧ (∀ x, c.amount = some x → x.isFinite = true) ∧
      c.raw.isStandard = true ∧ c.IsBookable ∧ ∀ d, c.creationDate = some d → d.IsOrdinary := by
  obtain ⟨date, hdate, hordinary⟩ := exists_readDate h.date
  obtain ⟨amount, hamount, hfinite⟩ := exists_readAmount hcharge.amount
  obtain ⟨status, hstatus⟩ := statusText_isOk.2 hcharge.status
  -- The method of payment is read when it is an object with fields, and else has none.
  have hmethod : ∃ inner, methodFieldsOf fields = .ok inner ∧ (field inner "url").display.IsStorable := by
    unfold methodFieldsOf
    rcases hcharge.method with hnull | ⟨inner, hinner⟩
    · rw [hnull]
      exact ⟨[], rfl, Value.isStorable_display.2 nofun⟩
    · have hencodable := isEncodable_field "payment_method" h.encodable
      rw [hinner] at hencodable ⊢
      split_ifs
      · exact ⟨inner, rfl, Value.isStorable_display_of_isEncodable (isEncodable_field "url" hencodable)⟩
      · exact ⟨[], rfl, Value.isStorable_display.2 nofun⟩
  obtain ⟨inner, hinner, hurl⟩ := hmethod
  have hslice : (field fields "error_message").IsSliceable := by
    rcases hcharge.message with hnull | ⟨t, ht⟩
    · rw [hnull]
      exact fun habsent => absurd habsent (by decide)
    · exact fun _ => .inl ⟨t, ht⟩
  refine ⟨_, status, bind_eq_ok.2 ⟨_, hreply.answerOf, Charge.ofPayload_eq_ok.2 ⟨fields, amount, date, inner,
    rfl, hamount, hdate, hinner, rfl⟩⟩, hstatus, ?_, hfinite, h.standard, ?_, hordinary⟩
  · exact Value.isStorable_display_orEmpty.2 (isStorable_field h "id")
  · exact ⟨isStorable_field h "status", fun d hd => (hordinary d hd).toUniversal_isOk, hurl,
      isStorable_field h "error_message", hslice⟩

end Provider

end CardPayments
