import CardPayments.Proofs.Json.RoundTrip
import CardPayments.Proofs.Payment.Payer
import CardPayments.Proofs.Session.Reuse

/-!
# The customer in a later order

The payment that creates a customer and a later one that finds it order their charges for the same customer,
but not always in the same words: `Session.reused_customer` says when they do, whatever is done in between, as
long as the later payment finds the row that the first one stored.  Between payments it always does.
-/

namespace CardPayments

open Json Provider Provider.Account

namespace Session

variable {s : Session} {p : Payment} {x y : Exchange} {answer : List (Text × Value)}

/-- The oldest customer of a name and address stays the one that is found while payments are taken. -/
theorem findCustomer?_performAll {between : List Task} (hbetween : ∀ t ∈ between, t.IsPayment) {name email : Text}
    {row : CustomerRow} (h : s.desk.store.findCustomer? name email = some row) :
    (s.performAll between).desk.store.findCustomer? name email = some row := by
  induction between generalizing s with
  | nil => exact h
  | cons t between ih =>
    rw [List.forall_mem_cons] at hbetween
    refine ih hbetween.2 ?_
    cases t with
    | pay p =>
      show (s.storeAfter p).findCustomer? name email = some row
      rw [storeAfter_eq]
      exact p.service.findCustomer?_process s.now p.request ((Task.pay p).desk s) rfl h
    | passTime now => exact h
    | _ => exact hbetween.1.elim

/-- **The same customer in other words**: a payment creates a customer, of whom the provider answers with some
object, and orders a charge.  It stores one row, which later payments of the name and the address find as long
as only payments are taken; and whenever a later payment that finds this row orders a charge, whatever was done
in between, the customer in its order is the one in the first order exactly when the provider repeated the
name and the address, keeps no account, and has no name for the customer or a text.  Both orders always agree
on whether the provider has a name for the customer, and the later one has the text of it. -/
theorem reused_customer (hx : x ∈ s.exchanges p) (hcreates : p.service.Posts "customers" x)
    (hanswer : answerOf x.reply = .ok (.object answer)) (hy : y ∈ s.exchanges p)
    (hcharges : p.service.Posts "charges" y) :
    ∃ row first, (s.storeAfter p).customers.since s.desk.store.customers = [row] ∧
      y.call.payload.field? "customer" = some first ∧
      (∀ between, (∀ t ∈ between, t.IsPayment) →
        ((s.perform (.pay p)).performAll between).desk.store.findCustomer? p.request.name p.request.email =
          some row) ∧
      ∀ between q z, let later := (s.perform (.pay p)).performAll between
        later.desk.store.findCustomer? q.request.name q.request.email = some row →
        z ∈ later.exchanges q → q.service.Posts "charges" z →
        ∃ again, z.call.payload.field? "customer" = some again ∧
          RebuildsCustomer answer q.request.name q.request.email first again := by
  obtain ⟨hnone, row, first, hrows, hname, hemail, hfirst, hrebuilds⟩ :=
    p.service.charge_of_created s.now p.request ((Task.pay p).desk s) rfl hx hcreates hanswer hy hcharges
  rw [store_desk] at hnone hrows
  rw [← storeAfter_eq] at hrows
  refine ⟨row, first, ?_, hfirst, fun between hbetween => ?_, ?_⟩
  · rw [Table.since, hrows, List.drop_left]
  · refine findCustomer?_performAll hbetween ?_
    show (s.storeAfter p).findCustomer? p.request.name p.request.email = some row
    exact Store.findCustomer?_of_append hnone hrows hname hemail
  · intro between q z later hfound hz hposts
    obtain ⟨-, hname', hemail'⟩ := Store.findCustomer?_eq_some hfound
    rw [← store_desk later (.pay q)] at hfound
    refine ⟨_, q.service.charge_of_found later.now q.request ((Task.pay q).desk later) rfl hfound hz hposts, ?_⟩
    rw [← hname', ← hemail', hname, hemail]
    exact hrebuilds

/-! ### Trials -/

/-- The trial payment, with the object by which the provider describes the customer. -/
def trialCreation (customer : Text) : Payment :=
  { trialPayment with replies := .answered 200 customer :: trialPayment.replies.tail }

/-- A customer with the name and the address of the request. -/
def trialEchoed : Text :=
  "\x7b\"id\": \"cus_1\", \"name\": \"Smoke Test\", \"email\": \"smoke-test@example.com\"\x7d"

/-- A customer with the name and the address of the request, for whom the provider has a number. -/
def trialNumbered : Text :=
  "\x7b\"id\": 17, \"name\": \"Smoke Test\", \"email\": \"smoke-test@example.com\"\x7d"

/-- Whoever pays twice is the same customer in both orders when the provider has a text for the customer, and
not when it has a number. -/
theorem trial_reused_customer :
    (∃ y ∈ trialSession.exchanges (trialCreation trialEchoed),
      ∃ z ∈ (trialSession.perform (.pay (trialCreation trialEchoed))).exchanges trialReturn, ∃ customer,
        y.call.payload.field? "customer" = some customer ∧ z.call.payload.field? "customer" = some customer) ∧
    ∃ y ∈ trialSession.exchanges (trialCreation trialNumbered),
      ∃ z ∈ (trialSession.perform (.pay (trialCreation trialNumbered))).exchanges trialReturn, ∃ first again,
        y.call.payload.field? "customer" = some first ∧ z.call.payload.field? "customer" = some again ∧
          again ≠ first := by
  have hrebuilds (customer : Text) (answer : List (Text × Value))
      (hread : Json.read customer = .ok (.object answer))
      (hx : ∃ x ∈ trialSession.exchanges (trialCreation customer),
        (trialCreation customer).service.Posts "customers" x ∧ x.reply = .answered 200 customer)
      (hy : ∃ y ∈ trialSession.exchanges (trialCreation customer),
        (trialCreation customer).service.Posts "charges" y)
      (hz : ∃ z ∈ (trialSession.perform (.pay (trialCreation customer))).exchanges trialReturn,
        trialReturn.service.Posts "charges" z) :
      ∃ y ∈ trialSession.exchanges (trialCreation customer),
        ∃ z ∈ (trialSession.perform (.pay (trialCreation customer))).exchanges trialReturn, ∃ first again,
          y.call.payload.field? "customer" = some first ∧ z.call.payload.field? "customer" = some again ∧
            RebuildsCustomer answer trialRequest.name trialRequest.email first again := by
    obtain ⟨x, hx, hcreates, hreply⟩ := hx
    obtain ⟨y, hy, hcharges⟩ := hy
    obtain ⟨z, hz, hposts⟩ := hz
    have hanswer : answerOf x.reply = .ok (.object answer) := by
      rw [hreply]
      exact answerOf_of_read (.inl rfl) hread
    obtain ⟨row, first, -, hfirst, hfound, hlater⟩ := reused_customer hx hcreates hanswer hy hcharges
    obtain ⟨again, hagain, hsame⟩ := hlater [] trialReturn z (hfound [] (List.forall_mem_nil _)) hz hposts
    exact ⟨y, hy, z, hz, first, again, hfirst, hagain, hsame⟩
  constructor
  · have hread : Json.read trialEchoed = .ok
        (.object [("id", "cus_1"), ("name", "Smoke Test"), ("email", "smoke-test@example.com")]) :=
      read_of_toText (.cons (.text _) (.cons (.text _) (.cons (.text _) .nil))) (by decide +kernel) rfl
    obtain ⟨y, hy, z, hz, first, again, hfirst, hagain, hsame⟩ :=
      hrebuilds trialEchoed _ hread (by decide +kernel) (by decide +kernel) (by decide +kernel)
    rw [hsame.same_iff.2 ⟨rfl, rfl, rfl, .inr ⟨"cus_1", rfl⟩⟩] at hagain
    exact ⟨y, hy, z, hz, first, hfirst, hagain⟩
  · have hread : Json.read trialNumbered = .ok
        (.object [("id", .int 17), ("name", "Smoke Test"), ("email", "smoke-test@example.com")]) :=
      read_of_toText (.cons (.int 17 (by decide)) (.cons (.text _) (.cons (.text _) .nil))) (by decide +kernel) rfl
    obtain ⟨y, hy, z, hz, first, again, hfirst, hagain, hsame⟩ :=
      hrebuilds trialNumbered _ hread (by decide +kernel) (by decide +kernel) (by decide +kernel)
    have hid : field [("id", .int 17), ("name", "Smoke Test"), ("email", "smoke-test@example.com")] "id" =
        Value.int 17 := rfl
    refine ⟨y, hy, z, hz, first, again, hfirst, hagain, fun h => ?_⟩
    obtain ⟨-, -, -, hkind⟩ := hsame.same_iff.1 h
    rw [hid] at hkind
    rcases hkind with hfalse | ⟨t, ht⟩
    · exact absurd hfalse (by decide)
    · cases ht

end Session

end CardPayments
