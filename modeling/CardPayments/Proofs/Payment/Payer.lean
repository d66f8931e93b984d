import CardPayments.Proofs.Binary64.Written
import CardPayments.Proofs.Payment.Answer
import CardPayments.Proofs.Payment.Reuse

/-!
# The customer in an order

A charge is ordered for a customer.  The payment that creates the customer passes on what the provider said of
it, of whatever kinds these values are; a payment that finds the customer makes it of the texts in its row.
Whether the provider is told the same both times depends on four fields of its own answer, and
`Provider.rebuildsCustomer` says how.  That a name of the provider is left out in one order exactly when it is
left out in the other rests on `Json.Value.display_ne_nil`: what counts as present has a text that does.
-/

namespace CardPayments

open Json Provider Provider.Account

/-! ### Texts of values -/

theorem Binary64.toText_ne_nil (x : Binary64) : x.toText ≠ [] := by
  cases x with
  | finite negative index =>
    obtain ⟨_, _, hread⟩ := read_toText negative index
    intro hnil
    rw [hnil] at hread
    cases hread
  | infinite negative => cases negative <;> decide
  | nan => decide

namespace Json.Value

variable {v : Value}

/-- What counts as present is written out as something. -/
theorem display_ne_nil (h : v.isTruthy = true) : v.display ≠ [] := by
  cases v with
  | null => cases h
  | bool b =>
    obtain rfl : b = true := h
    decide
  | int n =>
    show Text.ofInt n ≠ []
    unfold Text.ofInt
    split_ifs
    · exact List.append_ne_nil_of_right_ne_nil _ (Text.ofNat_ne_nil _)
    · exact Text.ofNat_ne_nil _
  | float x => exact x.toText_ne_nil
  | text t => simpa [isTruthy, display] using h
  | list items => exact List.append_ne_nil_of_right_ne_nil _ (by decide)
  | object fields => exact List.append_ne_nil_of_right_ne_nil _ (by decide)

/-- The text under which a value is stored counts as present exactly when the value does. -/
theorem isTruthy_text_orEmpty : (text v.orEmpty.display).isTruthy = v.isTruthy := by
  unfold orEmpty
  split_ifs with h
  · rw [h]
    simpa [isTruthy] using display_ne_nil h
  · exact (Bool.not_eq_true _ ▸ h).symm

theorem text_display_eq_iff : text v.display = v ↔ ∃ t, v = text t := by
  constructor
  · intro h
    exact ⟨_, h.symm⟩
  · rintro ⟨t, rfl⟩
    rfl

end Json.Value

/-! ### Customers that are sent again -/

namespace Provider

/-- The customer that is sent of what the provider answered, and the one that is sent again of a row with a name
and an address. -/
structure RebuildsCustomer (answer : List (Text × Value)) (name email : Text) (first again : Value) : Prop where
  /-- They are the same exactly when the provider repeated the name and the address, keeps no account, and has
  no name for the customer or a text. -/
  same_iff : again = first ↔ (field answer "name").orEmpty = .text name ∧
    (field answer "email").orEmpty = .text email ∧ (field answer "requires_account").isTruthy = false ∧
    ((field answer "id").isTruthy = false ∨ ∃ t, field answer "id" = .text t)
  /-- They always agree on whether the provider has a name for the customer, -/
  known_iff : (∃ v, again.field? "id" = some v) ↔ ∃ v, first.field? "id" = some v
  /-- and the second time it is the text of the first. -/
  id : ∀ v, first.field? "id" = some v → again.field? "id" = some (.text v.display)

theorem Customer.field?_id (c : Customer) :
    c.toPayload.field? "id" = if c.id.isTruthy then some c.id else none := by
  unfold Customer.toPayload
  split_ifs <;> rfl

theorem Customer.toPayload_inj {c c' : Customer} : c.toPayload = c'.toPayload ↔
    c.name = c'.name ∧ c.email = c'.email ∧ c.requiresAccount = c'.requiresAccount ∧
      (if c.id.isTruthy then some c.id else none) = if c'.id.isTruthy then some c'.id else none := by
  unfold Customer.toPayload
  simp only [Value.object.injEq, List.cons.injEq, Prod.mk.injEq, true_and, Value.bool.injEq]
  split_ifs <;> simp

/-- How the customer of a row with the provider's name for a customer compares with the customer itself. -/
theorem rebuildsCustomer {answer : List (Text × Value)} {c : Customer} {row : CustomerRow}
    (hname : c.name = (field answer "name").orEmpty) (hemail : c.email = (field answer "email").orEmpty)
    (haccount : c.requiresAccount = (field answer "requires_account").isTruthy)
    (hid : c.id = field answer "id") (hrow : row.apiCustomerId = c.id.orEmpty.display) :
    RebuildsCustomer answer row.name row.email c.toPayload
      (PaymentService.Attempt.payerOfRow row).customer.toPayload := by
  have htruthy : (Value.text row.apiCustomerId).isTruthy = c.id.isTruthy := by
    rw [hrow]
    exact Value.isTruthy_text_orEmpty
  have htext (h : c.id.isTruthy = true) : row.apiCustomerId = c.id.display := by
    rw [hrow, Value.orEmpty, if_pos h]
  have hagain : (PaymentService.Attempt.payerOfRow row).customer.toPayload.field? "id" =
      if c.id.isTruthy then some (.text row.apiCustomerId) else none := by
    rw [Customer.field?_id, ← htruthy]
    rfl
  refine ⟨?_, ?_, ?_⟩
  · -- The other three fields compare as they are; the provider's name counts only where it is sent.
    rw [Customer.toPayload_inj, ← hname, ← hemail, ← haccount, ← hid]
    show Value.text row.name = c.name ∧ Value.text row.email = c.email ∧ false = c.requiresAccount ∧
      (if (Value.text row.apiCustomerId).isTruthy then some (Value.text row.apiCustomerId) else none) = _ ↔ _
    rw [htruthy, eq_comm (b := c.name), eq_comm (b := c.email), eq_comm (b := c.requiresAccount)]
    refine and_congr_right' (and_congr_right' (and_congr_right' ?_))
    cases h : c.id.isTruthy with
    | false => simp
    | true => simp [htext h, Value.text_display_eq_iff]
  · rw [hagain, Customer.field?_id]
    split_ifs <;> simp
  · intro v hv
    rw [Customer.field?_id] at hv
    split_ifs at hv with h
    obtain rfl := Option.some.inj hv
    rw [hagain, if_pos h, htext h]

end Provider

/-! ### Whole payments -/

namespace PaymentService

namespace Attempt

open Store

variable {a : Attempt} {s : Store} {g : Stage} {k : Known} {l : Tokenized} {x : Exchange} {xs : List Exchange}

theorem field?_customer (h : x.call = a.chargeCall l) :
    x.call.payload.field? "customer" = some l.payer.customer.toPayload := by
  rw [h]
  rfl

end Attempt

variable (s : PaymentService) (now : DateTime) (request : PaymentRequest) (d : Desk)

/-- A payment that orders a charge for a customer whom it found makes the customer of its row. -/
theorem charge_of_found (hd : d.methodVanishes = false) {row : CustomerRow}
    (hfound : d.store.findCustomer? request.name request.email = some row) {x : Exchange}
    (hx : x ∈ d.exchanges (s.process now request)) (hposts : s.Posts "charges" x) :
    x.call.payload.field? "customer" = some (Attempt.payerOfRow row).customer.toPayload := by
  obtain ⟨a, g, xs, rfl, rfl, hg, -, -, hcalls, hlast⟩ := s.process_stage now request d hd
  rw [hcalls] at hx
  obtain ⟨l, hl, hcall, -⟩ := Attempt.Stage.of_posts_charges hlast hx hposts
  have hagrees : l.toKnown.Agrees a d.store :=
    hg.known (Attempt.known?_of_owned? (Attempt.owned?_of_tokenized? hl))
  rw [Attempt.field?_customer hcall, (hagrees.found row hfound).2]

/-- A payment that creates a customer and orders a charge found no customer, and has stored one with the name
and the address of the request; and any customer that is made of this row again compares with the one in the
order as `Provider.RebuildsCustomer` says. -/
theorem charge_of_created (hd : d.methodVanishes = false) {x y : Exchange} {answer : List (Text × Value)}
    (hx : x ∈ d.exchanges (s.process now request)) (hcreates : s.Posts "customers" x)
    (hanswer : answerOf x.reply = .ok (.object answer)) (hy : y ∈ d.exchanges (s.process now request))
    (hcharges : s.Posts "charges" y) :
    d.store.findCustomer? request.name request.email = none ∧
      ∃ row first, (d.run (s.process now request)).2.store.customers.rows = d.store.customers.rows ++ [row] ∧
        row.name = request.name ∧ row.email = request.email ∧
        y.call.payload.field? "customer" = some first ∧
        RebuildsCustomer answer request.name request.email first
          (Attempt.payerOfRow row).customer.toPayload := by
  obtain ⟨a, g, xs, rfl, rfl, hg, hheard, hfinal, hcalls, hlast⟩ := s.process_stage now request d hd
  rw [hcalls] at hx hy
  obtain ⟨l, hl, hcall, -⟩ := Attempt.Stage.of_posts_charges hlast hy hcharges
  have hk := Attempt.known?_of_owned? (Attempt.owned?_of_tokenized? hl)
  have hreply := Attempt.Stage.customerReply hlast hx hcreates hk
  -- The call that created the customer is the one that is known, and so the customer is new.
  have hnew : l.isNew = true := by
    rw [Attempt.Known.isNew, hreply]
    rfl
  obtain ⟨hnone, hcustomers⟩ := (hg.known hk).of_isNew hk hnew
  obtain ⟨answer', hanswer', hpayload⟩ := bind_eq_ok.1 (hheard.known hk x.reply hreply)
  obtain rfl := Except.ok.inj (hanswer.symm.trans hanswer')
  obtain ⟨_, _, hobject, -, hcustomer⟩ := Customer.ofPayload_eq_ok.1 hpayload
  obtain rfl := Value.object.inj hobject
  let row : CustomerRow := (a.customerDraft l.method l.payer.customer).row d.store.customers.next
  have hrow : row.apiCustomerId = l.payer.customer.id.orEmpty.display :=
    Offer.requiredText_value Value.orEmpty_ne_null
  rw [hfinal, hcustomers]
  refine ⟨hnone, row, _, rfl, rfl, rfl, Attempt.field?_customer hcall, ?_⟩
  refine rebuildsCustomer ?_ ?_ ?_ ?_ hrow
  all_goals rw [hcustomer]

end PaymentService

end CardPayments
