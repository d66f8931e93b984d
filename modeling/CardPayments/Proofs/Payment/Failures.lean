import CardPayments.Proofs.Payment.Operations
import CardPayments.Proofs.Payment.Quiet
import CardPayments.Proofs.Payment.Resolution
import CardPayments.Proofs.Program.Noted

/-!
# What becomes of a failure

The first operation of a payment that fails ends it.  Its failure is that of the payment, as it is, and is noted
by every part of the program that it goes through: by the call, if it arose in one, by the step, and by the
payment.  The last of these entries is the last one of the run, and there is no such entry when the payment has a
result (`PaymentService.process_reports`).
-/

namespace CardPayments

open Program Provider.Account

namespace PaymentService

/-- How many failed calls come with a deed. -/
def failedCalls (s : PaymentService) (deed : Deed) : Nat := (s.operationsOf deed).countP Operation.isFailedCall

variable {s : PaymentService} {c : Provider.Call}

theorem failedCalls_lookup (s : PaymentService) (name email : Text)
    (answer : Except Failure (Option CustomerRow)) : s.failedCalls (.lookup name email answer) = 0 := rfl

theorem failedCalls_write (s : PaymentService) (w : Write) (answer : Except Failure (Option Nat)) :
    s.failedCalls (.write w answer) = 0 := rfl

theorem failedCalls_customers (h : c.url = s.urlOf "customers") (reply : Provider.Reply) :
    s.failedCalls (.call c reply) = if (customerOf reply).isOk then 0 else 1 := by
  rw [failedCalls, operationsOf_customers h]
  cases customerOf reply <;> rfl

theorem failedCalls_cards (h : c.url = s.urlOf "cards") (session : Json.Value) (reply : Provider.Reply) :
    s.failedCalls (.call c reply) = if (cardOf session reply).isOk then 0 else 1 := by
  rw [failedCalls, operationsOf_cards h session]
  cases cardOf session reply <;> rfl

theorem failedCalls_charges (h : c.url = s.urlOf "charges") (reply : Provider.Reply) :
    s.failedCalls (.call c reply) = if (chargeOf reply).isOk then 0 else 1 := by
  rw [failedCalls, operationsOf_charges h, chargeOperations]
  cases chargeOf reply <;> rfl

/-! ### Calls of the provider -/

section Calls

variable {α : Type} {s : PaymentService}

/-- A call that is noted before and after notes its failures once, and this is what they weigh. -/
theorem isNoted_post {path : Text} {payload : Json.Value} {read : Json.Value → Except Failure α}
    (hweight : ∀ reply, s.failedCalls (.call (s.account.callOf path payload) reply) =
      if (answerOf reply >>= read).isOk then 0 else 1) (before failed : Text) (after : α → Text) :
    (noteCall before >>= fun _ =>
      Provider.Account.notingFailure failed
          (s.account.post path payload >>= fun answer => ofExcept (read answer)) >>= fun x =>
        noteCall (after x) >>= fun _ => pure x).IsNoted s.failedCalls 0 := by
  have hread (reply : Provider.Reply) :
      (ofExcept (answerOf reply) >>= fun answer => ofExcept (read answer)) =
        ofExcept (answerOf reply >>= read) := by
    cases answerOf reply <;> rfl
  have hpost : (s.account.post path payload >>= fun answer => ofExcept (read answer)) =
      call (s.account.callOf path payload) >>= fun reply => ofExcept (answerOf reply >>= read) := by
    rw [post, bind_bind]
    simp only [hread]
  rw [hpost]
  exact isNoted_info_bind _ _ ((isNoted_call hweight _ _).bind fun x =>
    isNoted_info_bind _ _ (isNoted_pure x))

theorem isNoted_createCustomer (c : Provider.Customer) :
    (s.account.createCustomer c).IsNoted s.failedCalls 0 :=
  isNoted_post (failedCalls_customers rfl) _ _ _

theorem isNoted_createCardToken (c : Provider.Card) :
    (s.account.createCardToken c).IsNoted s.failedCalls 0 :=
  isNoted_post (failedCalls_cards rfl c.deviceSession) _ _ _

theorem isNoted_orderCharge {order : Provider.ChargeOrder} {payload : Json.Value}
    (h : order.toPayload = .ok payload) : (s.account.createCharge order).IsNoted s.failedCalls 0 := by
  rw [Provider.Account.createCharge, h]
  exact isNoted_post (failedCalls_charges rfl) _ _ _

end Calls

/-! ### Steps -/

namespace Attempt

variable (a : Attempt) (payer : Payer) (method : Nat)

/-- A step notes the failures in it once more. -/
theorem isNoted_notingFailure {α : Type} {p : Program α} {n : Nat} (hp : p.IsNoted s.failedCalls n)
    (message : Text) : (notingFailure message p).IsNoted s.failedCalls (n + 1) := hp.noting _ _

theorem isNoted_insert (w : Write) : (insert w).IsNoted s.failedCalls 0 :=
  Program.isNoted_insert (failedCalls_write s) w

theorem isNoted_createMethod : a.createMethod.IsNoted a.service.failedCalls 1 := by
  refine isNoted_info_bind _ _ (IsNoted.bind ?_ fun _ => isNoted_info_bind _ _ (isNoted_pure _))
  exact isNoted_notingFailure (isNoted_chooseToken.bind fun _ => isNoted_insert _) _

theorem isNoted_createPayer : (a.createPayer method).IsNoted a.service.failedCalls 0 :=
  (isNoted_createCustomer _).bind fun _ => (isNoted_insert _).bind fun _ => isNoted_pure _

theorem isNoted_resolvePayer : (a.resolvePayer method).IsNoted a.service.failedCalls 1 := by
  refine isNoted_info_bind _ _ (IsNoted.bind (isNoted_notingFailure ?_ _) fun (payer, isNew) => ?_)
  · refine (isNoted_findCustomer (failedCalls_lookup a.service) _ _).bind fun found => ?_
    cases found with
    | some row => exact isNoted_info_bind _ _ (isNoted_pure _)
    | none => exact (a.isNoted_createPayer method).bind fun _ => isNoted_pure _
  · cases isNew with
    | true => exact isNoted_info_bind _ _ (isNoted_pure _)
    | false => exact isNoted_pure _

theorem isNoted_attachOwner : (a.attachOwner method payer).IsNoted a.service.failedCalls 1 := by
  refine isNoted_info_bind _ _ (IsNoted.bind (isNoted_notingFailure ?_ _) fun _ =>
    isNoted_info_bind _ _ (isNoted_pure ()))
  refine (isNoted_commit (failedCalls_write a.service) _).bind fun key => ?_
  cases key with
  | some key => exact isNoted_pure _
  | none =>
    -- That the method is gone is a warning; it is the failure after it that is noted.
    exact isNoted_warning_bind _ _ (isNoted_fail _)

theorem isNoted_createToken : (a.createToken payer).IsNoted a.service.failedCalls 1 := by
  refine isNoted_info_bind _ _ (isNoted_notingFailure ?_ _)
  exact (isNoted_createCardToken _).bind fun _ => isNoted_info_bind _ _
    ((isNoted_insert _).bind fun _ => isNoted_pure _)

theorem isNoted_recordCharge (order : Provider.ChargeOrder) (charge : Provider.Charge) :
    (a.recordCharge payer method order charge).IsNoted a.service.failedCalls 0 :=
  (isNoted_ofExcept _).bind fun _ => (isNoted_ofExcept _).bind fun _ =>
    (isNoted_insert _).bind fun _ => (isNoted_insert _).bind fun _ => isNoted_pure _

theorem isNoted_createCharge (card : Provider.Card) :
    (a.createCharge payer card method).IsNoted a.service.failedCalls 1 := by
  refine isNoted_info_bind _ _ (isNoted_notingFailure ?_ _)
  exact (isNoted_orderCharge rfl).bind fun charge => isNoted_info_bind _ _
    ((a.isNoted_recordCharge payer method _ charge).bind fun _ => isNoted_pure _)

theorem isNoted_steps : a.steps.IsNoted a.service.failedCalls 1 :=
  a.isNoted_createMethod.bind fun method => (a.isNoted_resolvePayer method).bind fun payer =>
    (a.isNoted_attachOwner payer method).bind fun _ => (a.isNoted_createToken payer).bind fun card =>
      (a.isNoted_createCharge payer method card).bind fun _ => isNoted_pure _

end Attempt

/-! ### The whole payment -/

/-- The entry with which a payment ends that has failed. -/
def lastEntry (request : PaymentRequest) : Failure → Journal.Entry :=
  Journal.error .payment ("Error in combined payment process for order " ++ request.orderId)

/-- What is to be said of a run of a payment, given its deeds, its operations, its result and what it noted. -/
structure Reports (request : PaymentRequest) (ds : List Deed) (os : List Operation)
    (r : Except Failure PaymentResult) (entries : List Journal.Entry) : Prop where
  /-- The payment fails exactly when its last entry says so, and says why. -/
  last : ∀ e, r = .error e ↔ entries.getLast? = some (lastEntry request e)
  /-- The failure is that of the first operation that failed, after which nothing more is done; it is noted as
  often as is due where this happened, and no other failure is noted. -/
  failed : ∀ e, r = .error e → (∃ o, FailLast os o e ∧
    (entries.countP fun entry => entry.level = .error) = o.place.notes) ∧
    ∀ entry ∈ entries, entry.level = .error → entry.failure = some e
  /-- With a result, nothing has failed, and nothing but the course of the payment is noted. -/
  succeeded : ∀ x, r = .ok x → Succeed os ∧ ∀ entry ∈ entries, entry.level = .info
  /-- A call that breaks on the way is the failure of the payment, with its kind and its message. -/
  broken : ∀ c kind message, .call c (.broken kind message) ∈ ds → r = .error (.transport kind message)
  /-- So is a refusal, with all that the provider says about it. -/
  refused : ∀ c status body, .call c (.answered status body) ∈ ds → isAccepted status = false →
    r = .error (.refused (.ofAnswer status body))

variable {now : DateTime} {request : PaymentRequest} {d : Desk} {e : Failure}

theorem sum_failedCalls (ds : List Deed) :
    (ds.map s.failedCalls).sum = (ds.flatMap s.operationsOf).countP Operation.isFailedCall :=
  List.countP_flatMap.symm

/-- What a payment that fails has noted: its beginning, the failure in its steps if it has begun, and the failure
of the whole. -/
theorem process_notes (h : (d.run (s.process now request)).1 = .error e) :
    ∃ entries, (d.run (s.process now request)).2.journal = d.journal ++ (entries ++ [lastEntry request e]) ∧
      Journal.faults entries = List.replicate ((if (s.attempt now request).isOk then 1 else 0) +
        ((d.deeds (s.process now request)).map s.failedCalls).sum) (some e) := by
  let first := d.note (firstEntry request)
  let begun := Program.ofExcept (s.attempt now request) >>= Attempt.steps
  have hrun : d.run (s.process now request) = first.run (begun.noting (lastEntry request)) := rfl
  have hdeeds : d.deeds (s.process now request) = first.deeds begun := Desk.deeds_noting _ begun first
  have hnoted : begun.IsNoted s.failedCalls (if (s.attempt now request).isOk then 1 else 0) := by
    show (Program.ofExcept (s.attempt now request) >>= Attempt.steps).IsNoted _ _
    cases hattempt : s.attempt now request with
    | error e => exact isNoted_fail e
    | ok a =>
      obtain ⟨year, month, rfl⟩ := eq_of_attempt hattempt
      exact Attempt.isNoted_steps _
  obtain ⟨entries, hentries, hfaults⟩ := hnoted first
  rw [Desk.run_noting] at hrun
  rcases hbegun : first.run begun with ⟨e' | x, m⟩ <;> rw [hbegun] at hrun hentries hfaults <;> rw [hrun] at h ⊢
  · obtain rfl := Except.error.inj h
    refine ⟨firstEntry request :: entries, ?_, ?_⟩
    · have hm : m.journal = d.journal ++ [firstEntry request] ++ entries := hentries
      show m.journal ++ [lastEntry request e'] = _
      rw [hm]
      simp only [List.append_assoc, List.cons_append, List.nil_append]
    · rw [hdeeds]
      exact hfaults
  · cases h

/-- A call without an answer is the failure of the payment. -/
theorem process_unanswered {c : Provider.Call} {reply : Provider.Reply}
    (hc : .call c reply ∈ d.deeds (s.process now request)) (he : answerOf reply = .error e) :
    (d.run (s.process now request)).1 = .error e := by
  have hmem : (⟨.call, some e⟩ : Operation) ∈ s.operations now request d :=
    List.mem_cons_of_mem _ (List.mem_flatMap.2 ⟨_, hc, mem_operationsOf_of_answerOf he⟩)
  cases hr : (d.run (s.process now request)).1 with
  | ok x => exact absurd (operations_of_ok hr _ hmem) nofun
  | error e' =>
    obtain ⟨o, hlast, _⟩ := operations_of_error hr
    rw [hlast.failure_eq hmem rfl]

theorem process_broken {c : Provider.Call} {kind message : Text}
    (hc : .call c (.broken kind message) ∈ d.deeds (s.process now request)) :
    (d.run (s.process now request)).1 = .error (.transport kind message) := process_unanswered hc rfl

theorem process_refused {c : Provider.Call} {status : Int} {body : Text}
    (hc : .call c (.answered status body) ∈ d.deeds (s.process now request))
    (hstatus : isAccepted status = false) :
    (d.run (s.process now request)).1 = .error (.refused (.ofAnswer status body)) := by
  refine process_unanswered hc ?_
  rw [answerOf, hstatus]
  rfl

/-- There are as many entries about the failure of a payment as are due for its last operation. -/
theorem process_counts (h : (d.run (s.process now request)).1 = .error e) :
    ∃ entries o, (d.run (s.process now request)).2.journal = d.journal ++ (entries ++ [lastEntry request e]) ∧
      FailLast (s.operations now request d) o e ∧
      Journal.faults (entries ++ [lastEntry request e]) = List.replicate o.place.notes (some e) := by
  obtain ⟨entries, hentries, hfaults⟩ := process_notes h
  obtain ⟨o, hlast, hplace⟩ := operations_of_error h
  have hsum : (s.operations now request d).countP Operation.isFailedCall =
      ((d.deeds (s.process now request)).map s.failedCalls).sum := by
    rw [sum_failedCalls]
    -- That the request cannot be read is no failure of a call.
    exact List.countP_cons_of_neg nofun
  refine ⟨entries, o, hentries, hlast, ?_⟩
  rw [Journal.faults_append, hfaults, ← hsum, hlast.countP, Place.notes_eq hplace, List.replicate_succ']
  rfl

/-- **What becomes of a failure**: a payment fails exactly with the failure of its first operation that fails,
be it a refusal, a broken call or anything else.  The last entry of the run says so, every entry about a failure
is about this one, and there are three of them for a failure in a call, two for another one in a step, and one
for a request with which no step begins.  A payment that has a result has only noted its course. -/
theorem process_reports (s : PaymentService) (now : DateTime) (request : PaymentRequest) (d : Desk) :
    ∃ entries, (d.run (s.process now request)).2.journal = d.journal ++ entries ∧
      Reports request (d.deeds (s.process now request)) (s.operations now request d)
        (d.run (s.process now request)).1 entries := by
  cases hr : (d.run (s.process now request)).1 with
  | ok x =>
    obtain ⟨entries, hentries, hinfo⟩ := isQuiet_process s now request d x _ (Prod.ext hr rfl)
    refine ⟨entries, hentries, fun e => iff_of_false nofun fun hlast => ?_, nofun, ?_,
      fun c kind message hc => hr ▸ process_broken hc,
      fun c status body hc hstatus => hr ▸ process_refused hc hstatus⟩
    · have hlevel := hinfo _ (List.mem_of_getLast? hlast)
      cases hlevel
    · rintro _ ⟨⟩
      exact ⟨operations_of_ok hr, hinfo⟩
  | error e =>
    obtain ⟨entries, o, hentries, hlast, hfaults⟩ := process_counts hr
    obtain ⟨hcount, hsame⟩ := Journal.of_faults_eq_replicate hfaults
    refine ⟨_, hentries, fun e' => ?_, ?_, nofun, fun c kind message hc => hr ▸ process_broken hc,
      fun c status body hc hstatus => hr ▸ process_refused hc hstatus⟩
    · rw [List.getLast?_concat]
      constructor
      · rintro ⟨⟩
        rfl
      · intro h
        have hfailure := congrArg Journal.Entry.failure (Option.some.inj h)
        exact congrArg _ (Option.some.inj hfailure)
    · rintro _ ⟨⟩
      exact ⟨⟨o, hlast, hcount⟩, hsame⟩

end PaymentService

end CardPayments
