import CardPayments.Proofs.Program.Deeds
import CardPayments.Proofs.Provider.Payload
import CardPayments.Provider.Client

/-!
# What a call of the provider amounts to

Each of the three calls is a single deed, whatever comes of it, and its result is what can be made of the
reply.
-/

namespace CardPayments

namespace Provider

namespace Account

open Program

variable {a : Account} {ds : List Deed}

/-- The customer that a reply describes. -/
def customerOf (reply : Reply) : Except Failure Customer := answerOf reply >>= Customer.ofPayload

/-- The card that a reply describes, given the session in which it was sent. -/
def cardOf (deviceSession : Json.Value) (reply : Reply) : Except Failure Card :=
  answerOf reply >>= Card.ofPayload deviceSession

/-- The charge that a reply describes. -/
def chargeOf (reply : Reply) : Except Failure Charge := answerOf reply >>= Charge.ofPayload

theorem isAccepted_iff {status : Int} : isAccepted status = true ↔ status = 200 ∨ status = 201 := by
  rw [isAccepted, Bool.or_eq_true, decide_eq_true_eq, decide_eq_true_eq]

/-- An accepted answer is what its body is read as. -/
theorem answerOf_of_read {status : Int} {body : Text} {v : Json.Value} (haccepted : status = 200 ∨ status = 201)
    (h : Json.read body = .ok v) : answerOf (.answered status body) = .ok v := by
  rw [answerOf, if_pos (isAccepted_iff.2 haccepted), h]
  rfl

/-- What a reply describes was read off the fields of an object. -/
theorem customerOf_eq_ok {reply : Reply} {c : Customer} (h : customerOf reply = .ok c) :
    ∃ fields, answerOf reply = .ok (.object fields) ∧ c.id = field fields "id" := by
  obtain ⟨answer, hanswer, h⟩ := bind_eq_ok.1 h
  obtain ⟨fields, _, rfl, _, rfl⟩ := Customer.ofPayload_eq_ok.1 h
  exact ⟨fields, hanswer, rfl⟩

theorem cardOf_eq_ok {deviceSession : Json.Value} {reply : Reply} {c : Card}
    (h : cardOf deviceSession reply = .ok c) :
    ∃ fields, answerOf reply = .ok (.object fields) ∧ c.id = field fields "id" := by
  obtain ⟨answer, hanswer, h⟩ := bind_eq_ok.1 h
  obtain ⟨fields, _, rfl, _, rfl⟩ := Card.ofPayload_eq_ok.1 h
  exact ⟨fields, hanswer, rfl⟩

/-- Whether a reply describes a card does not depend on the session. -/
theorem cardOf_isOk {deviceSession : Json.Value} {reply : Reply} {c : Card}
    (h : cardOf deviceSession reply = .ok c) (other : Json.Value) :
    ∃ c', cardOf other reply = .ok c' := by
  obtain ⟨answer, hanswer, h⟩ := bind_eq_ok.1 h
  obtain ⟨fields, date, hfields, hdate, _⟩ := Card.ofPayload_eq_ok.1 h
  exact ⟨_, bind_eq_ok.2 ⟨answer, hanswer, Card.ofPayload_eq_ok.2 ⟨fields, date, hfields, hdate, rfl⟩⟩⟩

theorem does_post {path : Text} {payload : Json.Value} {r : Except Failure Json.Value} :
    (a.post path payload).Does ds r ↔
      ∃ reply, ds = [.call (a.callOf path payload) reply] ∧ r = answerOf reply := by
  rw [post, does_call_bind]
  constructor
  · rintro ⟨reply, rest, rfl, h⟩
    obtain ⟨rfl, rfl⟩ := does_ofExcept.1 h
    exact ⟨reply, rfl, rfl⟩
  · rintro ⟨reply, rfl, rfl⟩
    exact ⟨reply, [], rfl, does_ofExcept.2 ⟨rfl, rfl⟩⟩

/-- Posting an object and reading the answer is one deed, too. -/
theorem does_post_bind {α : Type} {path : Text} {payload : Json.Value}
    {read : Json.Value → Except Failure α} {r : Except Failure α} :
    (a.post path payload >>= fun answer => ofExcept (read answer)).Does ds r ↔
      ∃ reply, ds = [.call (a.callOf path payload) reply] ∧ r = answerOf reply >>= read := by
  simp only [does_bind, does_post, does_ofExcept]
  constructor
  · rintro (⟨e, ⟨reply, rfl, hreply⟩, rfl⟩ | ⟨answer, _, _, ⟨reply, rfl, hreply⟩, ⟨rfl, rfl⟩, rfl⟩)
    · exact ⟨reply, rfl, by rw [← hreply]; rfl⟩
    · exact ⟨reply, rfl, by rw [← hreply]; rfl⟩
  · rintro ⟨reply, rfl, rfl⟩
    cases h : answerOf reply with
    | error e => exact .inl ⟨e, ⟨reply, rfl, h.symm⟩, rfl⟩
    | ok answer => exact .inr ⟨answer, _, [], ⟨reply, rfl, h.symm⟩, ⟨rfl, rfl⟩, rfl⟩

/-- Noting a failure, or afterwards a success, changes nothing about what is done. -/
theorem does_noted {α : Type} {p : Program α} {message : Text} {after : α → Text}
    {r : Except Failure α} :
    (notingFailure message p >>= fun x => noteCall (after x) >>= fun _ => pure x).Does ds r ↔
      p.Does ds r := by
  rw [notingFailure]
  exact does_bind_note.trans does_noting

theorem does_createCustomer {c : Customer} {r : Except Failure Customer} :
    (a.createCustomer c).Does ds r ↔
      ∃ reply, ds = [.call (a.callOf "customers" c.toPayload) reply] ∧ r = customerOf reply := by
  rw [createCustomer, noteCall, does_note_bind, does_noted]
  exact does_post_bind

theorem does_createCardToken {c : Card} {r : Except Failure Card} :
    (a.createCardToken c).Does ds r ↔
      ∃ reply, ds = [.call (a.callOf "cards" c.toPayload) reply] ∧
        r = cardOf c.deviceSession reply := by
  rw [createCardToken, noteCall, does_note_bind, does_noted]
  exact does_post_bind

theorem does_createCharge {order : ChargeOrder} {payload : Json.Value}
    (h : order.toPayload = .ok payload) {r : Except Failure Charge} :
    (a.createCharge order).Does ds r ↔
      ∃ reply, ds = [.call (a.callOf "charges" payload) reply] ∧ r = chargeOf reply := by
  rw [createCharge, noteCall, does_note_bind, does_noted, h]
  exact does_post_bind

end Account

end Provider

end CardPayments
