import CardPayments.Proofs.Failure
import CardPayments.Provider.Payload

/-!
# What is understood of an answer

A customer, a card or a charge is read off an answer exactly when the answer is an object whose dates
and amounts can be read.  All other fields may hold anything.
-/

namespace CardPayments

namespace Provider

open Json

theorem fieldsOf_eq_ok {answer : Value} {fields : List (Text × Value)} :
    fieldsOf answer = .ok fields ↔ answer = .object fields := by
  cases answer with
  | object known =>
    rw [fieldsOf, Except.ok.injEq, Value.object.injEq]
  | _ => exact ⟨nofun, nofun⟩

/-- Fields are asked of an object only. -/
theorem fieldsOf_of_ne {v : Value} (h : ∀ known, v ≠ .object known) :
    fieldsOf v = .error (.noOperation v.kindName "get") := by
  cases v with
  | object known => exact absurd rfl (h known)
  | _ => rfl

theorem Customer.ofPayload_eq_ok {answer : Value} {c : Customer} :
    Customer.ofPayload answer = .ok c ↔ ∃ fields date, answer = .object fields ∧
      readDate (field fields "creation_date") = .ok date ∧
      c = ⟨(field fields "name").orEmpty, (field fields "email").orEmpty,
        (field fields "requires_account").isTruthy, field fields "id", date⟩ := by
  simp only [Customer.ofPayload, bind_eq_ok, pure_eq_ok, fieldsOf_eq_ok, exists_and_left]

theorem Card.ofPayload_eq_ok {deviceSession answer : Value} {c : Card} :
    Card.ofPayload deviceSession answer = .ok c ↔ ∃ fields date, answer = .object fields ∧
      readDate (field fields "creation_date") = .ok date ∧
      c = ⟨(field fields "card_number").orEmpty, (field fields "holder_name").orEmpty,
        (field fields "expiration_year").orEmpty, (field fields "expiration_month").orEmpty, "",
        deviceSession, field fields "id", date, field fields "brand"⟩ := by
  simp only [Card.ofPayload, bind_eq_ok, pure_eq_ok, fieldsOf_eq_ok, exists_and_left]

/-- The fields of the method of payment of a charge, none when there is no such method. -/
def methodFieldsOf (fields : List (Text × Value)) : Except Failure (List (Text × Value)) :=
  if (field fields "payment_method").isTruthy then fieldsOf (field fields "payment_method") else .ok []

/-- A charge is read off an answer by its amount, its date and its method of payment, in this order. -/
theorem Charge.ofPayload_eq (answer : Value) :
    Charge.ofPayload answer = fieldsOf answer >>= fun fields => readAmount (field fields "amount") >>= fun amount =>
      readDate (field fields "creation_date") >>= fun date => methodFieldsOf fields >>= fun methodFields =>
        pure ⟨(field fields "id").orEmpty, field fields "status", amount, field fields "authorization", date,
          field fields "error_message", field fields "order_id", field methodFields "url", answer⟩ := by
  unfold Charge.ofPayload
  refine congrArg _ (funext fun fields => congrArg _ (funext fun amount => congrArg _ (funext fun date => ?_)))
  -- The rest of the reading stands in both branches, so that it only becomes one after the split.
  unfold methodFieldsOf
  split_ifs <;> rfl

theorem Charge.ofPayload_eq_ok {answer : Value} {c : Charge} :
    Charge.ofPayload answer = .ok c ↔ ∃ fields amount date methodFields, answer = .object fields ∧
      readAmount (field fields "amount") = .ok amount ∧
      readDate (field fields "creation_date") = .ok date ∧
      methodFieldsOf fields = .ok methodFields ∧
      c = ⟨(field fields "id").orEmpty, field fields "status", amount, field fields "authorization",
        date, field fields "error_message", field fields "order_id", field methodFields "url",
        answer⟩ := by
  simp only [Charge.ofPayload_eq, bind_eq_ok, pure_eq_ok, fieldsOf_eq_ok, exists_and_left]

end Provider

end CardPayments
