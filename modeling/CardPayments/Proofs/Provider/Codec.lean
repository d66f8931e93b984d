import CardPayments.Proofs.Provider.Payload

/-!
# Customers and cards on their way out and back

A customer or a card that comes back in the very payload that was sent for it is described by `received`: of
what does not count as present the empty text is left, and dates, the brand and the check value do not travel.
What was once understood of a payload is understood alike from then on, whatever stood in its fields
(`Provider.returnsPayloads`).
-/

namespace CardPayments

open Json

/-! ### Values that count as present -/

namespace Json.Value

@[simp] theorem orEmpty_text (t : Text) : (text t).orEmpty = text t := by
  cases t with
  | nil => rfl
  | cons c t => rfl

/-- The empty text stays in place of what does not count as present. -/
@[simp] theorem orEmpty_orEmpty (v : Value) : v.orEmpty.orEmpty = v.orEmpty := by
  by_cases h : v.isTruthy = true
  · have hself : v.orEmpty = v := if_pos h
    rw [hself, hself]
  · have hempty : v.orEmpty = text [] := if_neg h
    rw [hempty, orEmpty_text]

end Json.Value

namespace Provider

/-- What is sent for what was understood of an answer is understood as something for which the same is sent. -/
def Settles {α : Type} (toPayload : α → Value) (ofPayload : Value → Except Failure α) : Prop :=
  ∀ answer a, ofPayload answer = .ok a → (ofPayload (toPayload a)).map toPayload = .ok (toPayload a)

/-- This is so when all that is sent is understood, and what was understood before keeps its payload. -/
theorem Settles.of_received {α : Type} {toPayload : α → Value} {ofPayload : Value → Except Failure α}
    (received : α → α) (hreceived : ∀ a, ofPayload (toPayload a) = .ok (received a))
    (hkeeps : ∀ answer a, ofPayload answer = .ok a → toPayload (received a) = toPayload a) :
    Settles toPayload ofPayload := by
  intro answer a ha
  rw [hreceived, Except.map, hkeeps answer a ha]

/-! ### Customers -/

namespace Customer

/-- A customer that has texts for a name and an address, and no name at the provider or a text. -/
structure IsPlain (c : Customer) : Prop where
  name : ∃ t, c.name = .text t
  email : ∃ t, c.email = .text t
  id : c.id = .null ∨ ∃ t, t ≠ [] ∧ c.id = .text t

/-- What is understood of the payload of a customer. -/
def received (c : Customer) : Customer :=
  ⟨c.name.orEmpty, c.email.orEmpty, c.requiresAccount, if c.id.isTruthy then c.id else .null, none⟩

/-- A customer can always be read off its own payload. -/
theorem ofPayload_toPayload (c : Customer) : ofPayload c.toPayload = .ok c.received := by
  unfold toPayload received
  -- The identifier is in the payload only if it counts as present.
  split_ifs <;> rfl

theorem IsPlain.received_eq {c : Customer} (h : c.IsPlain) : c.received = { c with creationDate := none } := by
  obtain ⟨name, hname⟩ := h.name
  obtain ⟨email, hemail⟩ := h.email
  have hid : (if c.id.isTruthy then c.id else .null) = c.id := by
    obtain hnull | ⟨t, ht, htext⟩ := h.id
    · rw [hnull]
      rfl
    · have htruthy : c.id.isTruthy = true := by simpa [htext, Value.isTruthy] using ht
      exact if_pos htruthy
  rw [received, hid, hname, hemail, Value.orEmpty_text, Value.orEmpty_text]

/-- What counts as present is left out neither the first time nor the second. -/
theorem toPayload_received {answer : Value} {c : Customer} (h : ofPayload answer = .ok c) :
    c.received.toPayload = c.toPayload := by
  obtain ⟨fields, date, -, -, rfl⟩ := ofPayload_eq_ok.1 h
  unfold received toPayload
  simp only [Value.orEmpty_orEmpty]
  by_cases hid : (field fields "id").isTruthy = true
  · simp only [hid, if_true]
  · -- Null stands in for it, and is left out as it was.
    have hnull : Value.null.isTruthy = false := rfl
    simp only [hid, if_false, hnull, Bool.false_eq_true]

end Customer

/-! ### Cards -/

namespace Card

/-- A card of which all that is embossed on it is known as texts. -/
structure IsPlain (c : Card) : Prop where
  number : ∃ t, c.number = .text t
  holderName : ∃ t, c.holderName = .text t
  expirationYear : ∃ t, c.expirationYear = .text t
  expirationMonth : ∃ t, c.expirationMonth = .text t

/-- What is understood of the payload of a card that was sent in a session. -/
def received (deviceSession : Value) (c : Card) : Card :=
  ⟨c.number.orEmpty, c.holderName.orEmpty, c.expirationYear.orEmpty, c.expirationMonth.orEmpty, "",
    deviceSession, .null, none, .null⟩

/-- A card can always be read off its own payload. -/
theorem ofPayload_toPayload (deviceSession : Value) (c : Card) :
    ofPayload deviceSession c.toPayload = .ok (c.received deviceSession) := rfl

theorem IsPlain.received_eq {c : Card} (h : c.IsPlain) : c.received c.deviceSession =
    { c with check := "", id := .null, creationDate := none, brand := .null } := by
  obtain ⟨number, hnumber⟩ := h.number
  obtain ⟨holder, hholder⟩ := h.holderName
  obtain ⟨year, hyear⟩ := h.expirationYear
  obtain ⟨month, hmonth⟩ := h.expirationMonth
  simp only [received, hnumber, hholder, hyear, hmonth, Value.orEmpty_text]

/-- The payload of a card that was read off an answer has no check value and the session in which it was sent. -/
theorem toPayload_received {deviceSession answer : Value} {c : Card} (h : ofPayload deviceSession answer = .ok c) :
    (c.received deviceSession).toPayload = c.toPayload := by
  obtain ⟨fields, date, -, -, rfl⟩ := ofPayload_eq_ok.1 h
  simp only [received, toPayload, Value.orEmpty_orEmpty]

/-- Whatever an answer says of it, the check value is not taken over. -/
theorem check_of_ofPayload {deviceSession answer : Value} {c : Card} (h : ofPayload deviceSession answer = .ok c) :
    c.check = "" := by
  obtain ⟨fields, date, -, -, rfl⟩ := ofPayload_eq_ok.1 h
  rfl

end Card

/-! ### The main statement -/

/-- What becomes of customers, and of cards that are sent in a session, when they go out and come back. -/
structure ReturnsPayloads (deviceSession : Value) : Prop where
  /-- A plain customer comes back as it is, without its date. -/
  customer : ∀ c : Customer, c.IsPlain → Customer.ofPayload c.toPayload = .ok { c with creationDate := none }
  /-- Of any answer that describes a customer the same is sent again and again. -/
  customerSettles : Settles Customer.toPayload Customer.ofPayload
  /-- A plain card comes back without its check value and without what the provider said of it. -/
  card : ∀ c : Card, c.IsPlain → c.deviceSession = deviceSession → Card.ofPayload deviceSession c.toPayload =
    .ok { c with check := "", id := .null, creationDate := none, brand := .null }
  /-- Of any answer that describes a card the same is sent again and again. -/
  cardSettles : Settles Card.toPayload (Card.ofPayload deviceSession)
  /-- No answer describes a card with a check value. -/
  check : ∀ answer c, Card.ofPayload deviceSession answer = .ok c → c.check = ""

/-- **Payloads that come back**: customers and cards whose fields are texts come back as they went out, except for
what does not travel; what was understood of an answer with anything in its fields is understood alike when it
is sent back; and no answer brings a check value. -/
theorem returnsPayloads (deviceSession : Value) : ReturnsPayloads deviceSession where
  customer c hplain := by rw [Customer.ofPayload_toPayload, hplain.received_eq]
  customerSettles := Settles.of_received Customer.received Customer.ofPayload_toPayload
    fun _ _ => Customer.toPayload_received
  card c hplain hsession := by rw [Card.ofPayload_toPayload, ← hsession, hplain.received_eq]
  cardSettles := Settles.of_received (Card.received deviceSession) (Card.ofPayload_toPayload deviceSession)
    fun _ _ => Card.toPayload_received
  check _ _ := Card.check_of_ofPayload

/-- An answer in which nothing is of the kind it should be, and which repeats the check value. -/
def trialAnswer : Value :=
  .object [("name", .list []), ("email", .float .nan), ("requires_account", .text "false"), ("id", .int 0),
    ("card_number", .bool true), ("holder_name", .object []), ("expiration_month", .int 12), ("cvv2", .text "123")]

/-- Such an answer still describes a customer and a card, which from then on stay what they are. -/
theorem trial_returnsPayloads :
    (Customer.ofPayload trialAnswer).map Customer.toPayload =
        .ok (.object [("name", .text []), ("email", .float .nan), ("requires_account", .bool true)]) ∧
      (Customer.ofPayload (.object [("name", .text []), ("email", .float .nan),
        ("requires_account", .bool true)])).map Customer.toPayload =
        .ok (.object [("name", .text []), ("email", .float .nan), ("requires_account", .bool true)]) ∧
      ∃ c, Card.ofPayload "session" trialAnswer = .ok c ∧ c.number = .bool true ∧ c.holderName = .text [] ∧
        c.check = "" :=
  ⟨rfl, (returnsPayloads "session").customerSettles trialAnswer _ rfl, _, rfl, rfl, rfl,
    (returnsPayloads "session").check trialAnswer _ rfl⟩

end Provider

end CardPayments
