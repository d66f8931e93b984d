import CardPayments.Proofs.Payment.Calls

/-!
# What can fail in a payment

A payment is a list of operations: the expiry is read, then come the looks into the store, the groups of rows
and the calls, and once there is a charge its status is read.  `PaymentService.operations` lists those of a run,
each with the failure that came of it, if any.  A payment goes on after an operation exactly when nothing failed
there: either all operations succeed, and then there is a result, or the last one is the only one that failed,
and its failure is that of the payment (`operations_of_ok`, `operations_of_error`).
-/

namespace CardPayments

open Provider.Account

/-- Why a group of rows is not written: it is refused, or the row that is to get its owner is gone. -/
def Write.failure? : Write → Except Failure (Option Nat) → Option Failure
  | .owner key _ _, .ok none => some (.methodNotFound key)
  | _, answer => failureOf answer

namespace Provider

/-- Whether, and why, no card is read off a reply does not depend on the session in which it was sent. -/
theorem failureOf_cardOf (session session' : Json.Value) (reply : Reply) :
    failureOf (cardOf session reply) = failureOf (cardOf session' reply) := by
  unfold cardOf Card.ofPayload
  cases answerOf reply with
  | error e => rfl
  | ok answer =>
    show failureOf (fieldsOf answer >>= _) = failureOf (fieldsOf answer >>= _)
    cases fieldsOf answer with
    | error e => rfl
    | ok fields =>
      show failureOf (readDate (field fields "creation_date") >>= _) =
        failureOf (readDate (field fields "creation_date") >>= _)
      cases readDate (field fields "creation_date") <;> rfl

end Provider

namespace PaymentService

open Attempt

/-! ### Operations -/

/-- Where in a payment something is done. -/
inductive Place where
  /-- Before the first step. -/
  | request
  /-- In a step, but not in a call of the provider. -/
  | step
  /-- In a call of the provider. -/
  | call
  deriving DecidableEq

/-- How many entries tell of a failure in a place: the payment writes one, a step another one, and a call a
third one. -/
def Place.notes : Place → Nat
  | .request => 1
  | .step => 2
  | .call => 3

theorem Place.notes_eq {place : Place} {begun : Bool} (h : place = .request ↔ begun = false) :
    place.notes = (if begun then 1 else 0) + (if place = .call then 1 else 0) + 1 := by
  cases begun with
  | false =>
    obtain rfl := h.2 rfl
    rfl
  | true =>
    cases place with
    | request => exact absurd (h.1 rfl) nofun
    | step => rfl
    | call => rfl

/-- Something that a payment does and that may fail. -/
structure Operation where
  /-- Where it is done. -/
  place : Place
  /-- Why it failed, if it did. -/
  failure? : Option Failure

/-- Did a call of the provider fail? -/
def Operation.isFailedCall (o : Operation) : Bool := o.place = .call && o.failure?.isSome

/-- The operations that come with the reply to the order of a charge: it is read, and then its status. -/
def chargeOperations (reply : Provider.Reply) : List Operation :=
  match chargeOf reply with
  | .error e => [⟨.call, some e⟩]
  | .ok charge => [⟨.call, none⟩, ⟨.step, failureOf (statusText charge.status)⟩]

variable (s : PaymentService)

/-- The operations that come with a deed. -/
def operationsOf : Deed → List Operation
  | .lookup _ _ answer => [⟨.step, failureOf answer⟩]
  | .write w answer => [⟨.step, w.failure? answer⟩]
  | .call c reply =>
    if c.url = s.urlOf "customers" then [⟨.call, failureOf (customerOf reply)⟩]
    else if c.url = s.urlOf "cards" then [⟨.call, failureOf (cardOf .null reply)⟩]
    else chargeOperations reply

/-- The operations of a payment, in order. -/
def operations (now : DateTime) (request : PaymentRequest) (d : Desk) : List Operation :=
  ⟨.request, failureOf (s.attempt now request)⟩ :: (d.deeds (s.process now request)).flatMap s.operationsOf

variable {s} {c : Provider.Call} {reply : Provider.Reply}

theorem operationsOf_customers (h : c.url = s.urlOf "customers") :
    s.operationsOf (.call c reply) = [⟨.call, failureOf (customerOf reply)⟩] := if_pos h

theorem operationsOf_cards (h : c.url = s.urlOf "cards") (session : Json.Value) :
    s.operationsOf (.call c reply) = [⟨.call, failureOf (cardOf session reply)⟩] := by
  have hother : c.url ≠ s.urlOf "customers" := by
    rw [h, Ne, urlOf_inj]
    decide
  rw [operationsOf, if_neg hother, if_pos h, Provider.failureOf_cardOf]

theorem operationsOf_charges (h : c.url = s.urlOf "charges") :
    s.operationsOf (.call c reply) = chargeOperations reply := by
  have hother : c.url ≠ s.urlOf "customers" ∧ c.url ≠ s.urlOf "cards" := by
    simp only [h, Ne, urlOf_inj]
    decide
  rw [operationsOf, if_neg hother.1, if_neg hother.2]

/-- A call to which there is no answer has failed for want of it, whatever it was about. -/
theorem mem_operationsOf_of_answerOf {e : Failure} (h : answerOf reply = .error e) :
    (⟨.call, some e⟩ : Operation) ∈ s.operationsOf (.call c reply) := by
  have hcustomer : customerOf reply = .error e := by
    rw [customerOf, h]
    rfl
  have hcard : cardOf .null reply = .error e := by
    rw [cardOf, h]
    rfl
  have hcharge : chargeOf reply = .error e := by
    rw [chargeOf, h]
    rfl
  simp only [operationsOf, chargeOperations, hcustomer, hcard, hcharge]
  split_ifs <;> exact List.mem_singleton_self _

/-! ### Which operations fail -/

/-- All of some operations succeed. -/
def Succeed (os : List Operation) : Prop := ∀ o ∈ os, o.failure? = none

/-- The last of some operations is the only one that fails, and this is its failure. -/
def FailLast (os : List Operation) (o : Operation) (e : Failure) : Prop :=
  ∃ done, os = done ++ [o] ∧ Succeed done ∧ o.failure? = some e

theorem succeed_nil : Succeed [] := List.forall_mem_nil _

theorem Succeed.append {first second : List Operation} (hfirst : Succeed first) (hsecond : Succeed second) :
    Succeed (first ++ second) := List.forall_mem_append.2 ⟨hfirst, hsecond⟩

theorem succeed_cons {o : Operation} {os : List Operation} :
    Succeed (o :: os) ↔ o.failure? = none ∧ Succeed os := List.forall_mem_cons

/-- An operation that fails has the failure of the last one. -/
theorem FailLast.failure_eq {os : List Operation} {o o' : Operation} {e e' : Failure} (h : FailLast os o e)
    (hmem : o' ∈ os) (ho' : o'.failure? = some e') : e' = e := by
  obtain ⟨done, rfl, hdone, ho⟩ := h
  rcases List.mem_append.1 hmem with hmem | hmem
  · rw [hdone o' hmem] at ho'
    cases ho'
  · obtain rfl := List.mem_singleton.1 hmem
    exact Option.some.inj (ho'.symm.trans ho)

theorem Succeed.countP_eq_zero {os : List Operation} (h : Succeed os) :
    os.countP Operation.isFailedCall = 0 := by
  refine List.countP_eq_zero.2 fun o ho => ?_
  rw [Operation.isFailedCall, h o ho]
  simp

/-- A call has failed if the last operation is one. -/
theorem FailLast.countP {os : List Operation} {o : Operation} {e : Failure} (h : FailLast os o e) :
    os.countP Operation.isFailedCall = if o.place = .call then 1 else 0 := by
  obtain ⟨done, rfl, hdone, ho⟩ := h
  rw [List.countP_append, hdone.countP_eq_zero, Nat.zero_add, List.countP_singleton, Operation.isFailedCall, ho]
  simp

/-- The last of some operations is the only one that fails, and it is one of a step. -/
def FailInStep (os : List Operation) (e : Failure) : Prop :=
  ∃ o, FailLast os o e ∧ o.place ≠ .request

theorem FailInStep.single {o : Operation} {e : Failure} (ho : o.failure? = some e) (hplace : o.place ≠ .request) :
    FailInStep [o] e := ⟨o, ⟨[], rfl, succeed_nil, ho⟩, hplace⟩

theorem FailInStep.append {first second : List Operation} {e : Failure} (hfirst : Succeed first)
    (hsecond : FailInStep second e) : FailInStep (first ++ second) e := by
  obtain ⟨o, ⟨done, rfl, hdone, ho⟩, hplace⟩ := hsecond
  exact ⟨o, ⟨first ++ done, (List.append_assoc ..).symm, hfirst.append hdone, ho⟩, hplace⟩

theorem FailInStep.cons {o : Operation} {os : List Operation} {e : Failure} (ho : o.failure? = none)
    (hos : FailInStep os e) : FailInStep (o :: os) e :=
  .append (List.forall_mem_singleton.2 ho) hos

namespace Attempt

variable {a : Attempt} {ds : List Deed} {g i : Stage} {e : Failure}

section Calls

variable {reply : Provider.Reply}

theorem operationsOf_customerCall :
    a.service.operationsOf (.call a.customerCall reply) = [⟨.call, failureOf (customerOf reply)⟩] :=
  operationsOf_customers rfl

theorem operationsOf_cardCall :
    a.service.operationsOf (.call a.cardCall reply) = [⟨.call, failureOf (cardOf a.deviceSession reply)⟩] :=
  operationsOf_cards rfl a.deviceSession

theorem operationsOf_chargeCall {k : Tokenized} :
    a.service.operationsOf (.call (a.chargeCall k) reply) = chargeOperations reply :=
  operationsOf_charges rfl

end Calls

/-- A payment only gets to the next stage when everything on the way succeeds. -/
theorem Step.succeed (h : a.Step g ds i) : Succeed (ds.flatMap a.service.operationsOf) := by
  cases h with
  | record token key => exact List.forall_mem_singleton.2 rfl
  | reuse row => exact List.forall_mem_singleton.2 rfl
  | create reply key hreply =>
    rw [List.flatMap_cons, List.flatMap_cons, operationsOf_customerCall, hreply]
    exact succeed_cons.2 ⟨rfl, succeed_cons.2 ⟨rfl, List.forall_mem_singleton.2 rfl⟩⟩
  | own key => exact List.forall_mem_singleton.2 rfl
  | tokenize reply key hreply =>
    rw [List.flatMap_cons, operationsOf_cardCall, hreply]
    exact succeed_cons.2 ⟨rfl, List.forall_mem_singleton.2 rfl⟩
  | log reply key hreply hstatus =>
    rw [List.flatMap_cons, operationsOf_chargeCall, chargeOperations, hreply]
    dsimp only
    rw [hstatus]
    exact succeed_cons.2 ⟨rfl, succeed_cons.2 ⟨rfl, List.forall_mem_singleton.2 rfl⟩⟩
  | charge key => exact List.forall_mem_singleton.2 rfl

theorem Steps.succeed (h : a.Steps g ds i) : Succeed (ds.flatMap a.service.operationsOf) := by
  induction h with
  | refl => exact succeed_nil
  | tail _ hstep ih =>
    rw [List.flatMap_append]
    exact ih.append hstep.succeed

/-- A payment that fails halts with the operation that failed. -/
theorem Halts.failInStep (h : a.Halts g ds (.error e)) : FailInStep (ds.flatMap a.service.operationsOf) e := by
  cases h with
  | methodRefused token e => exact .single rfl nofun
  | lookupRefused e => exact .single rfl nofun
  | customerFailed reply hreply =>
    rw [List.flatMap_cons, List.flatMap_singleton, operationsOf_customerCall, hreply]
    exact .cons rfl (.single rfl nofun)
  | customerRefused reply e hreply =>
    rw [List.flatMap_cons, List.flatMap_cons, operationsOf_customerCall, hreply]
    exact .cons rfl (.cons rfl (.single rfl nofun))
  | ownerRefused e => exact .single rfl nofun
  | methodGone => exact .single rfl nofun
  | cardFailed reply hreply =>
    rw [List.flatMap_singleton, operationsOf_cardCall, hreply]
    exact .single rfl nofun
  | tokenRefused reply e hreply =>
    rw [List.flatMap_cons, operationsOf_cardCall, hreply]
    exact .cons rfl (.single rfl nofun)
  | chargeFailed reply hreply =>
    rw [List.flatMap_singleton, operationsOf_chargeCall, chargeOperations, hreply]
    exact .single rfl nofun
  | statusFailed reply hreply hstatus =>
    rw [List.flatMap_singleton, operationsOf_chargeCall, chargeOperations, hreply]
    dsimp only
    rw [hstatus]
    exact .cons rfl (.single rfl nofun)
  | logRefused reply e hreply hstatus =>
    rw [List.flatMap_cons, operationsOf_chargeCall, chargeOperations, hreply]
    dsimp only
    rw [hstatus]
    exact .cons rfl (.cons rfl (.single rfl nofun))
  | chargeRefused e => exact .single rfl nofun

end Attempt

/-! ### The whole payment -/

variable {s : PaymentService} {now : DateTime} {request : PaymentRequest} {d : Desk} {e : Failure}

/-- A payment that fails before its first step has failed at once. -/
theorem operations_of_attempt (h : s.attempt now request = .error e) :
    (d.run (s.process now request)).1 = .error e ∧ s.operations now request d = [⟨.request, some e⟩] := by
  rcases process_does (d.run_does (s.process now request)) with ⟨e', he', hds, hr⟩ | ⟨a, ha, _⟩
  · rw [h] at he'
    obtain rfl := Except.error.inj he'
    rw [operations, hds, h]
    exact ⟨hr, rfl⟩
  · rw [h] at ha
    cases ha

/-- The operations of a payment that has begun. -/
theorem operations_of_begun {a : Attempt} (h : s.attempt now request = .ok a) :
    s.operations now request d =
      ⟨.request, none⟩ :: (d.deeds (s.process now request)).flatMap s.operationsOf := by
  rw [operations, h]
  rfl

/-- The steps of a payment that has begun succeed or fail as the payment does. -/
theorem steps_of_begun {a : Attempt} (h : s.attempt now request = .ok a) :
    match (d.run (s.process now request)).1 with
    | .ok _ => Succeed ((d.deeds (s.process now request)).flatMap s.operationsOf)
    | .error e => FailInStep ((d.deeds (s.process now request)).flatMap s.operationsOf) e := by
  rcases process_does (d.run_does (s.process now request)) with ⟨e', he', _⟩ | ⟨a', ha', hends⟩
  · rw [h] at he'
    cases he'
  obtain ⟨year, month, rfl⟩ := eq_of_attempt ha'
  obtain ⟨g, before, last, hsteps, hhalts, hds⟩ := hends
  rw [hds, List.flatMap_append]
  generalize (d.run (s.process now request)).1 = r at hhalts
  cases r with
  | error e => exact .append hsteps.succeed hhalts.failInStep
  | ok x =>
    cases hhalts with
    | paid => exact hsteps.succeed.append succeed_nil

/-- When a payment has a result, everything in it has succeeded. -/
theorem operations_of_ok {x : PaymentResult} (h : (d.run (s.process now request)).1 = .ok x) :
    Succeed (s.operations now request d) := by
  cases hattempt : s.attempt now request with
  | error e =>
    rw [(operations_of_attempt hattempt).1] at h
    cases h
  | ok a =>
    have hsteps := steps_of_begun hattempt (d := d)
    rw [h] at hsteps
    rw [operations_of_begun hattempt]
    exact succeed_cons.2 ⟨rfl, hsteps⟩

/-- When a payment fails, the last of its operations is the only one that has failed, and is one of a step
unless the payment has not begun. -/
theorem operations_of_error (h : (d.run (s.process now request)).1 = .error e) :
    ∃ o, FailLast (s.operations now request d) o e ∧
      (o.place = .request ↔ (s.attempt now request).isOk = false) := by
  cases hattempt : s.attempt now request with
  | error e' =>
    obtain ⟨hr, hoperations⟩ := operations_of_attempt hattempt (d := d)
    rw [h] at hr
    obtain rfl := Except.error.inj hr
    exact ⟨_, ⟨[], hoperations, succeed_nil, rfl⟩, iff_of_true rfl rfl⟩
  | ok a =>
    have hsteps := steps_of_begun hattempt (d := d)
    rw [h] at hsteps
    obtain ⟨o, ⟨done, hdone, hsucceed, ho⟩, hplace⟩ := hsteps
    rw [operations_of_begun hattempt, hdone]
    exact ⟨o, ⟨_ :: done, rfl, succeed_cons.2 ⟨rfl, hsucceed⟩, ho⟩, iff_of_false hplace nofun⟩

end PaymentService

end CardPayments
